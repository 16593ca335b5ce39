import Stockroom.Proofs.Query.Draft
import Stockroom.Proofs.Query.Lookups

/-!
# Operands that cannot be read

A condition is refused for its first operand, from left to right, that is no value of its
column.  To the bindings, lowering a condition is lowering its tests one by one; so what a
refused condition leaves behind is what its tests before the refused one bind and record,
and of that test the operands in front, unless it is a range.
-/

namespace Stockroom

/-! ## Faults of lowerings -/

namespace Lowering

variable {α β : Type} {run : Lowering α} {before after : Bindings} {fault : QueryFault}

theorem Fails.unique {fault' : QueryFault} {after' : Bindings}
    (h : run.Fails before fault after) (h' : run.Fails before fault' after') :
    fault = fault' ∧ after = after' := by
  have same := h.symm.trans h'
  injection same with result bindings
  exact ⟨Except.error.inj result, bindings⟩

theorem Fails.not_yields (h : run.Fails before fault after) {a : α} {after' : Bindings} :
    ¬run.Yields before a after' := by
  intro hyields
  have same := h.symm.trans hyields
  injection same with result
  cases result

theorem not_fails_pure {a : α} : ¬Fails (pure a) before fault after := by
  intro h
  cases h

theorem fails_lift {result : Except QueryFault α} (h : result = .error fault)
    (before : Bindings) : Fails (liftM result) before fault before := by
  rw [h]
  rfl

theorem discard_eq_bind (run : Lowering α) : discard run = run >>= fun _ => pure () := by
  rw [bind_pure_comp]
  rfl

theorem discard_bind_pure (run : Lowering α) (f : α → β) :
    discard (run >>= fun a => pure (f a)) = discard run := by
  rw [discard_eq_bind, discard_eq_bind, bind_assoc]
  simp only [pure_bind]

/-- A lowering whose result is dropped fails as before. -/
theorem fails_discard : Fails (discard run) before fault after ↔ run.Fails before fault after := by
  rw [discard_eq_bind, fails_bind]
  simp [not_fails_pure]

end Lowering

/-! ## Refused operands -/

namespace Catalog

/-- A registered field is compared with a text that is no value of the kind of its column. -/
inductive Refuses (catalog : Catalog) : Condition.Input → QueryFault → Prop where
  | unreadable {field text : String} {column : Column}
      (registered : catalog.column? field = some column)
      (unreadable : column.kind.read? text = none) :
      Refuses catalog (.value field (.text text))
        (.invalidValue field (.unreadable ⟨column.kind, text⟩))

variable {catalog : Catalog}

theorem operand_eq_error_iff {field : String} {value : Value} {fault : QueryFault} :
    catalog.operand field value = .error fault ↔ catalog.Refuses (.value field value) fault := by
  constructor
  · intro h
    rw [operand] at h
    cases registered : catalog.column? field with
    | none => simp [registered] at h
    | some column =>
        cases value with
        | text text =>
            cases unreadable : column.kind.read? text with
            | some read => simp [registered, Kind.coerce, unreadable, Except.mapError] at h
            | none =>
                simp [registered, Kind.coerce, unreadable, Except.mapError] at h
                exact h ▸ .unreadable registered unreadable
        | _ => simp [registered, Kind.coerce, Except.mapError] at h
  · rintro ⟨registered, unreadable⟩
    simp [operand, registered, Kind.coerce, unreadable, Except.mapError]

/-- A refused operand is one of a registered field, whose look-up leaves no trace. -/
theorem Refuses.yields_column {field : String} {value : Value} {fault : QueryFault}
    (h : catalog.Refuses (.value field value) fault) (before : Bindings) :
    (Lowering.column catalog field).Yields before (catalog.resolve field) before := by
  obtain ⟨registered, -⟩ := h
  rw [Lowering.column, resolve, registered]
  exact Lowering.yields_pure.mpr ⟨rfl, rfl⟩

theorem Refuses.fails_operand {field : String} {value : Value} {fault : QueryFault}
    (h : catalog.Refuses (.value field value) fault) (before : Bindings) :
    Lowering.Fails (liftM (catalog.operand field value)) before fault before :=
  Lowering.fails_lift (operand_eq_error_iff.mpr h) before

theorem Binds.yields_operand {field : String} {value param : Value}
    (h : catalog.Binds (.value field value) param) (before : Bindings) :
    Lowering.Yields (liftM (catalog.operand field value)) before param before :=
  Lowering.yields_lift.mpr ⟨binds_value_iff.mp h, rfl⟩

/-- An input is bound unless it is refused. -/
theorem exists_binds_iff (input : Condition.Input) :
    (∃ param, catalog.Binds input param) ↔ ¬∃ fault, catalog.Refuses input fault := by
  cases input with
  | text text =>
      constructor
      · rintro - ⟨fault, refused⟩
        cases refused
      · exact fun _ => ⟨.text text, rfl⟩
  | value field value =>
      simp only [binds_value_iff, ← operand_eq_error_iff]
      cases catalog.operand field value <;> simp

theorem bindable_iff {inputs : List Condition.Input} :
    catalog.Bindable inputs ↔ ∀ input ∈ inputs, ¬∃ fault, catalog.Refuses input fault :=
  forall₂_congr fun input _ => exists_binds_iff input

end Catalog

/-! ## Tests of a condition -/

namespace Condition

mutual

/-- The tests of a condition from left to right. -/
def tests : Condition → List Condition
  | .eq field value => [.eq field value]
  | .oneOf field values => [.oneOf field values]
  | .like field pattern => [.like field pattern]
  | .between field low high => [.between field low high]
  | .fullText field query => [.fullText field query]
  | .all parts => testsOf parts
  | .any parts => testsOf parts
  | .not part => part.tests

def testsOf : List Condition → List Condition
  | [] => []
  | part :: parts => part.tests ++ testsOf parts

end

mutual

theorem inputsOf_tests : ∀ condition : Condition, inputsOf condition.tests = condition.inputs
  | .eq .. | .oneOf .. | .like .. | .between .. | .fullText .. => List.append_nil _
  | .all parts => inputsOf_testsOf parts
  | .any parts => inputsOf_testsOf parts
  | .not part => inputsOf_tests part

theorem inputsOf_testsOf : ∀ parts : List Condition, inputsOf (testsOf parts) = inputsOf parts
  | [] => rfl
  | part :: parts => by
      rw [testsOf, inputsOf_append, inputsOf_tests part, inputsOf_testsOf parts, inputsOf]

end

/-- What each test of a condition is: a node without parts. -/
def IsTest (condition : Condition) : Prop := condition.operator.isComposite = false

mutual

theorem isTest_of_mem_tests :
    ∀ (condition : Condition), ∀ test ∈ condition.tests, test.IsTest
  | .eq .. | .oneOf .. | .like .. | .between .. | .fullText .. => by
      intro test htest
      rw [List.mem_singleton.mp htest]
      rfl
  | .all parts => isTest_of_mem_testsOf parts
  | .any parts => isTest_of_mem_testsOf parts
  | .not part => isTest_of_mem_tests part

theorem isTest_of_mem_testsOf :
    ∀ (parts : List Condition), ∀ test ∈ testsOf parts, test.IsTest
  | [], _, h => by cases h
  | part :: parts, test, h => by
      rcases List.mem_append.mp h with first | rest
      · exact isTest_of_mem_tests part test first
      · exact isTest_of_mem_testsOf parts test rest

end

/-! ## Lowering test by test -/

variable {catalog : Catalog}

theorem lowerAll_append (parts others : List Condition) :
    lowerAll catalog (parts ++ others) =
      lowerAll catalog parts >>= fun first =>
        lowerAll catalog others >>= fun rest => pure (first ++ rest) := by
  induction parts with
  | nil => simp [lowerAll]
  | cons part parts ih => simp [lowerAll, ih]

theorem discard_lowerAll_append (parts others : List Condition) :
    discard (lowerAll catalog (parts ++ others)) =
      discard (lowerAll catalog parts) >>= fun _ => discard (lowerAll catalog others) := by
  rw [lowerAll_append]
  simp [Lowering.discard_eq_bind]

theorem discard_lowerAll_cons (part : Condition) (parts : List Condition) :
    discard (lowerAll catalog (part :: parts)) =
      discard (part.lower catalog) >>= fun _ => discard (lowerAll catalog parts) := by
  simp [lowerAll, Lowering.discard_eq_bind]

theorem discard_lowerAll_singleton (part : Condition) :
    discard (lowerAll catalog [part]) = discard (part.lower catalog) := by
  simp [lowerAll, Lowering.discard_eq_bind]

mutual

/-- To the bindings, lowering a condition is lowering its tests one by one. -/
theorem discard_lower_eq : ∀ condition : Condition,
    discard (condition.lower catalog) = discard (lowerAll catalog condition.tests)
  | .eq .. | .oneOf .. | .like .. | .between .. | .fullText .. =>
      (discard_lowerAll_singleton _).symm
  | .all parts => by
      rw [lower, Lowering.discard_bind_pure, discard_lowerAll_eq parts, tests]
  | .any parts => by
      rw [lower, Lowering.discard_bind_pure, discard_lowerAll_eq parts, tests]
  | .not part => by
      rw [lower, Lowering.discard_bind_pure, discard_lower_eq part, tests]

theorem discard_lowerAll_eq : ∀ parts : List Condition,
    discard (lowerAll catalog parts) = discard (lowerAll catalog (testsOf parts))
  | [] => rfl
  | part :: parts => by
      rw [discard_lowerAll_cons, discard_lower_eq part, discard_lowerAll_eq parts, testsOf,
        discard_lowerAll_append]

end

/-! ## The refused test -/

theorem fails_lowerValues {field : String} {value : Value} {fault : QueryFault}
    {front back : List Value} (readable : catalog.Bindable (front.map (.value field)))
    (refused : catalog.Refuses (.value field value) fault) (before : Bindings) :
    ∃ after, (lowerValues catalog field (front ++ value :: back)).Fails before fault after ∧
      after.params = before.params ++ (front.map (.value field)).map catalog.param ∧
      after.fallbacks = before.fallbacks := by
  induction front generalizing before with
  | nil => exact ⟨before, (refused.fails_operand before).bind _, (List.append_nil _).symm, rfl⟩
  | cons first front ih =>
      obtain ⟨⟨param, binds⟩, rest⟩ := List.forall_mem_cons.mp readable
      have bound : (Lowering.bind param).Yields before _ (before.push param) :=
        Lowering.yields_bindValue.mpr ⟨rfl, rfl⟩
      obtain ⟨after, fails, params, fallbacks⟩ := ih rest (before.push param)
      refine ⟨after, (binds.yields_operand before).bind_fails (bound.bind_fails (fails.bind _)), ?_,
        fallbacks⟩
      rw [params, Bindings.push, List.map_cons, List.map_cons, Catalog.param_of_binds binds,
        List.append_assoc, List.singleton_append]

/-- The inputs that a refused test has bound: a range binds none before both are read. -/
def boundBefore (test : Condition) (readable : List Input) : List Input :=
  if test.operator = .between then [] else readable

theorem fails_lower_test {test : Condition} (htest : test.IsTest) {readable further : List Input}
    {input : Input} (hinputs : test.inputs = readable ++ input :: further)
    (hreadable : catalog.Bindable readable) {fault : QueryFault}
    (refused : catalog.Refuses input fault) (before : Bindings) :
    ∃ after, (test.lower catalog).Fails before fault after ∧
      after.params = before.params ++ (test.boundBefore readable).map catalog.param ∧
      after.fallbacks = before.fallbacks := by
  cases test with
  | eq field value =>
      obtain ⟨rfl, rfl, rfl⟩ : readable = [] ∧ input = .value field value ∧ further = [] := by
        simpa [inputs, List.cons_eq_append_iff] using hinputs
      exact ⟨before,
        (refused.yields_column before).bind_fails ((refused.fails_operand before).bind _),
        (List.append_nil _).symm, rfl⟩
  | oneOf field values =>
      obtain ⟨front, rest, rfl, rfl, hrest⟩ := List.map_eq_append_iff.mp hinputs
      obtain ⟨value, back, rfl, rfl, rfl⟩ := List.map_eq_cons_iff.mp hrest
      obtain ⟨after, fails, params, fallbacks⟩ := fails_lowerValues hreadable refused before
      refine ⟨after, ?_, params, fallbacks⟩
      have notEmpty : (front ++ value :: back).isEmpty = false := by simp
      rw [lower]
      simp only [notEmpty]
      exact (refused.yields_column before).bind_fails (fails.bind _)
  | between field low high =>
      -- Either end can be the refused one; nothing is bound before both are read.
      obtain ⟨rfl, rfl, -⟩ | ⟨rfl, rfl, -⟩ :
          (readable = [] ∧ input = .value field low ∧ further = [.value field high]) ∨
            readable = [.value field low] ∧ input = .value field high ∧ further = [] := by
        simpa [inputs, List.cons_eq_append_iff] using hinputs
      · exact ⟨before,
          (refused.yields_column before).bind_fails ((refused.fails_operand before).bind _),
          (List.append_nil _).symm, rfl⟩
      · obtain ⟨param, binds⟩ := hreadable (.value field low) (List.mem_singleton.mpr rfl)
        have unread := refused.fails_operand before
        exact ⟨before, (refused.yields_column before).bind_fails
            ((binds.yields_operand before).bind_fails (unread.bind _)),
          (List.append_nil _).symm, rfl⟩
  | like field pattern =>
      obtain ⟨rfl, rfl, rfl⟩ : readable = [] ∧ input = .text pattern ∧ further = [] := by
        simpa [inputs, List.cons_eq_append_iff] using hinputs
      cases refused
  | fullText field query =>
      obtain ⟨rfl, rfl, rfl⟩ : readable = [] ∧ input = .text query ∧ further = [] := by
        simpa [inputs, List.cons_eq_append_iff] using hinputs
      cases refused
  | all | any | not => cases htest

/-! ## Where a condition is refused -/

/-- The first input of a condition that is refused, in its test, and what stands in front. -/
structure Stop (catalog : Catalog) (condition : Condition) (fault : QueryFault) where
  front : List Condition
  test : Condition
  back : List Condition
  readable : List Input
  input : Input
  further : List Input
  tests_eq : condition.tests = front ++ test :: back
  inputs_eq : test.inputs = readable ++ input :: further
  refused : catalog.Refuses input fault
  earlier_read : ∀ earlier ∈ inputsOf front ++ readable, ¬∃ cause, catalog.Refuses earlier cause

theorem exists_first {α : Type} {p : α → Prop} {items : List α} (h : ∃ item ∈ items, p item) :
    ∃ front item back, items = front ++ item :: back ∧ p item ∧ ∀ other ∈ front, ¬p other := by
  classical
  obtain ⟨item, hitem, holds⟩ := h
  obtain ⟨first, hfirst⟩ : ∃ first, items.find? (fun item => decide (p item)) = some first :=
    Option.isSome_iff_exists.mp
      (List.find?_isSome.mpr ⟨item, hitem, decide_eq_true holds⟩)
  obtain ⟨hp, front, back, hitems, before⟩ := List.find?_eq_some_iff_append.mp hfirst
  exact ⟨front, first, back, hitems, of_decide_eq_true hp, by simpa using before⟩

theorem mem_inputsOf {input : Input} {parts : List Condition} :
    input ∈ inputsOf parts ↔ ∃ part ∈ parts, input ∈ part.inputs := by
  induction parts with
  | nil => simp [inputsOf]
  | cons part parts ih => simp [inputsOf, ih]

theorem exists_stop {condition : Condition} (h : ¬catalog.Bindable condition.inputs) :
    ∃ fault, Nonempty (Stop catalog condition fault) := by
  have unread : ∃ test ∈ condition.tests, ∃ input ∈ test.inputs, ∃ fault,
      catalog.Refuses input fault := by
    simp only [Catalog.bindable_iff, not_forall, not_not, exists_prop] at h
    obtain ⟨input, hinput, refused⟩ := h
    rw [← inputsOf_tests, mem_inputsOf] at hinput
    obtain ⟨test, htest, hinput⟩ := hinput
    exact ⟨test, htest, input, hinput, refused⟩
  obtain ⟨front, test, back, tests_eq, htest, hfront⟩ := exists_first unread
  obtain ⟨readable, input, further, inputs_eq, ⟨fault, refused⟩, hreadable⟩ := exists_first htest
  refine ⟨fault, ⟨⟨front, test, back, readable, input, further, tests_eq, inputs_eq, refused, ?_⟩⟩⟩
  intro earlier hearlier
  rcases List.mem_append.mp hearlier with inFront | inTest
  · obtain ⟨other, hother, hinput⟩ := mem_inputsOf.mp inFront
    exact fun refused => hfront other hother ⟨earlier, hinput, refused⟩
  · exact hreadable earlier inTest

namespace Stop

variable {condition : Condition} {fault : QueryFault}

theorem fails (stop : Stop catalog condition fault) (before : Bindings) :
    ∃ after, (condition.lower catalog).Fails before fault after ∧
      after.params = before.params ++
        (inputsOf stop.front ++ stop.test.boundBefore stop.readable).map catalog.param ∧
      after.fallbacks = before.fallbacks ++ catalog.fallbacksOf (fieldsOf stop.front) := by
  obtain ⟨hfront, hreadable⟩ := List.forall_mem_append.mp stop.earlier_read
  obtain ⟨predicates, between, hyields⟩ :=
    exists_yields_lowerAll stop.front (Catalog.bindable_iff.mpr hfront) before
  have isTest : stop.test.IsTest :=
    isTest_of_mem_tests condition stop.test (by simp [stop.tests_eq])
  obtain ⟨after, hfails, params, fallbacks⟩ := fails_lower_test isTest stop.inputs_eq
    (Catalog.bindable_iff.mpr hreadable) stop.refused between
  refine ⟨after, ?_, ?_, ?_⟩
  · rw [← Lowering.fails_discard, discard_lower_eq, Lowering.fails_discard, stop.tests_eq,
      lowerAll_append]
    exact hyields.bind_fails ((hfails.bind _).bind _)
  · rw [params, (yields_lowerAll stop.front hyields).2.params_eq, List.map_append,
      List.append_assoc]
  · rw [fallbacks, (looksUp_lowerAll stop.front).fallbacks hyields]

theorem inputs_condition_eq (stop : Stop catalog condition fault) :
    condition.inputs = inputsOf stop.front ++ stop.readable ++
      stop.input :: (stop.further ++ inputsOf stop.back) := by
  rw [← inputsOf_tests, stop.tests_eq, inputsOf_append, inputsOf, stop.inputs_eq]
  simp

theorem input_mem (stop : Stop catalog condition fault) : stop.input ∈ condition.inputs := by
  rw [stop.inputs_condition_eq]
  simp

end Stop

/--
A condition is refused exactly if an operand in it is refused, and then for the first one.
Nothing that was bound or recorded before is lost.  All operands are bound and all fields
looked up if the condition is lowered; else those of the tests in front of the refused
one, and the operands in front of the refused one in its own test unless this is a range.
-/
theorem refused_at_first_unreadable (catalog : Catalog) (condition : Condition)
    (before : Bindings) :
    ((∃ fault after, (condition.lower catalog).Fails before fault after) ↔
      ∃ input ∈ condition.inputs, ∃ fault, catalog.Refuses input fault) ∧
    (∀ predicate after, (condition.lower catalog).Yields before predicate after →
      after.params = before.params ++ condition.inputs.map catalog.param ∧
      after.fallbacks = before.fallbacks ++ catalog.fallbacksOf condition.fields) ∧
    ∀ fault after, (condition.lower catalog).Fails before fault after →
      ∃ stop : Stop catalog condition fault,
        condition.inputs = inputsOf stop.front ++ stop.readable ++
          stop.input :: (stop.further ++ inputsOf stop.back) ∧
        after.params = before.params ++ (inputsOf stop.front ++
          if stop.test.operator = .between then [] else stop.readable).map catalog.param ∧
        after.fallbacks = before.fallbacks ++ catalog.fallbacksOf (fieldsOf stop.front) := by
  have stops : ∀ {fault after}, (condition.lower catalog).Fails before fault after →
      ∃ cause, Nonempty (Stop catalog condition cause) := by
    intro fault after hfails
    refine exists_stop fun bindable => ?_
    obtain ⟨predicate, left, hyields⟩ := exists_yields_lower condition bindable before
    exact hfails.not_yields hyields
  refine ⟨⟨?_, ?_⟩, ?_, ?_⟩
  · rintro ⟨fault, after, hfails⟩
    obtain ⟨cause, ⟨stop⟩⟩ := stops hfails
    exact ⟨stop.input, stop.input_mem, cause, stop.refused⟩
  · rintro ⟨input, hinput, refused⟩
    have unbindable : ¬catalog.Bindable condition.inputs := fun bindable =>
      Catalog.bindable_iff.mp bindable input hinput refused
    obtain ⟨fault, ⟨stop⟩⟩ := exists_stop unbindable
    obtain ⟨after, hfails, -⟩ := stop.fails before
    exact ⟨fault, after, hfails⟩
  · intro predicate after hyields
    exact ⟨(yields_lower condition hyields).2.params_eq, condition.looksUp_lower.fallbacks hyields⟩
  · intro fault after hfails
    obtain ⟨cause, ⟨stop⟩⟩ := stops hfails
    obtain ⟨left, hleft, params, fallbacks⟩ := stop.fails before
    obtain ⟨rfl, rfl⟩ := hleft.unique hfails
    exact ⟨stop, stop.inputs_condition_eq, params, fallbacks⟩

/-- A range whose upper end is no number, behind a list that is and a field without a column. -/
def endlessRange : Condition :=
  .all [.eq "color" (.text "red"), .oneOf "stock" [.text " 7", .int 8],
    .not (.between "stock" (.text "1") (.text "many")), .eq "weight" (.text "none")]

theorem refused_at_first_unreadable_of_endlessRange :
    let catalog := (Catalog.ofColumns ⟨"id", .uuid⟩ ⟨"name", .text⟩).register "stock"
      ⟨"stock", .integer⟩
    let fault := QueryFault.invalidValue "stock" (.unreadable ⟨.integer, "many"⟩)
    let before : Bindings := ⟨[.bool true], [⟨"size", "name"⟩]⟩
    let after : Bindings :=
      ⟨[.bool true, .text "red", .int 7, .int 8], [⟨"size", "name"⟩, ⟨"color", "name"⟩]⟩
    let range := between "stock" (.text "1") (.text "20")
    (endlessRange.lower catalog).Fails before fault after ∧
      (∃ stop : Stop catalog endlessRange fault,
        after.params = before.params ++ (inputsOf stop.front ++
          if stop.test.operator = .between then [] else stop.readable).map catalog.param) ∧
      ∃ predicate bound, (range.lower catalog).Yields before predicate bound ∧
        bound.params = before.params ++ range.inputs.map catalog.param := by
  intro catalog fault before after range
  have fails : (endlessRange.lower catalog).Fails before fault after := rfl
  have yields : (range.lower catalog).Yields before _ _ := rfl
  obtain ⟨stop, -, params, -⟩ :=
    (refused_at_first_unreadable catalog endlessRange before).2.2 fault after fails
  have bound := (refused_at_first_unreadable catalog range before).2.1 _ _ yields
  exact ⟨fails, ⟨stop, params⟩, _, _, yields, bound.1⟩

end Condition

end Stockroom
