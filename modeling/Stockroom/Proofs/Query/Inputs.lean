import Mathlib.Data.List.Forall2
import Stockroom.Proofs.Query.Lowering

/-!
# What lowering emits and binds

The predicate that a condition is lowered to is settled by the columns and the
shape of the condition and by the number of parameters bound before.  What the
tests compare with is bound from left to right, each input once.
-/

namespace Stockroom

namespace Condition

/-- What a test binds: a value for the column of a field, or a text that stays one. -/
inductive Input where
  | value (field : String) (value : Value)
  | text (text : String)
  deriving DecidableEq, Repr

mutual

/-- The inputs of the tests of a condition from left to right. -/
def inputs : Condition → List Input
  | .eq field value => [.value field value]
  | .oneOf field values => values.map (.value field)
  | .like _ pattern => [.text pattern]
  | .between field low high => [.value field low, .value field high]
  | .fullText _ query => [.text query]
  | .all parts => inputsOf parts
  | .any parts => inputsOf parts
  | .not part => part.inputs

def inputsOf : List Condition → List Input
  | [] => []
  | part :: parts => part.inputs ++ inputsOf parts

end

mutual

/-- The predicate of a condition whose inputs are bound behind `count` parameters. -/
def predicate (catalog : Catalog) (count : Nat) : Condition → Sql.Predicate
  | .eq field _ => .compare (catalog.resolve field).name .equal (count + 1)
  | .oneOf _ [] => .constant false
  | .oneOf field (first :: others) =>
      .member (catalog.resolve field).name (List.range' (count + 1) (first :: others).length)
  | .like field _ => .compare (catalog.resolve field).name .like (count + 1)
  | .between field _ _ => .conjunction
      [.compare (catalog.resolve field).name .atLeast (count + 1),
        .compare (catalog.resolve field).name .atMost (count + 2)]
  | .fullText field _ => .search (catalog.resolve field).name (count + 1)
  | .all parts => .conjunction (predicates catalog count parts)
  | .any parts => .disjunction (predicates catalog count parts)
  | .not part => .negation (part.predicate catalog count)

def predicates (catalog : Catalog) (count : Nat) : List Condition → List Sql.Predicate
  | [] => []
  | part :: parts =>
      part.predicate catalog count :: predicates catalog (count + part.inputs.length) parts

end

end Condition

namespace Catalog

/-- The parameter of an input: for a registered field the value is read as one of its column. -/
def Binds (catalog : Catalog) : Condition.Input → Value → Prop
  | .value field value, param =>
      match catalog.column? field with
      | some column => column.kind.coerce value = .ok param
      | none => param = value
  | .text text, param => param = .text text

theorem binds_value_iff {catalog : Catalog} {field : String} {value param : Value} :
    catalog.Binds (.value field value) param ↔ catalog.operand field value = .ok param := by
  rw [operand]
  simp only [Binds]
  cases hcolumn : catalog.column? field with
  | none => simp [eq_comm]
  | some column => cases hcoerce : column.kind.coerce value <;> simp [hcoerce, Except.mapError]

/-- Every input is read as one of its column. -/
def Bindable (catalog : Catalog) (inputs : List Condition.Input) : Prop :=
  ∀ input ∈ inputs, ∃ param, catalog.Binds input param

/-- Behind the earlier parameters one more is bound for each input. -/
def Extends (catalog : Catalog) (inputs : List Condition.Input) (before after : Bindings) : Prop :=
  ∃ params, after.params = before.params ++ params ∧ List.Forall₂ catalog.Binds inputs params

namespace Extends

variable {catalog : Catalog} {inputs further : List Condition.Input} {input : Condition.Input}
  {param : Value} {before between after : Bindings}

theorem length_eq (h : catalog.Extends inputs before after) :
    after.params.length = before.params.length + inputs.length := by
  obtain ⟨params, hparams, binds⟩ := h
  rw [hparams, List.length_append, binds.length_eq]

theorem refl (h : after.params = before.params) : catalog.Extends [] before after :=
  ⟨[], by rw [h, List.append_nil], .nil⟩

theorem push (h : catalog.Binds input param) (hparams : between.params = before.params) :
    catalog.Extends [input] before (between.push param) :=
  ⟨[param], by rw [Bindings.push, hparams], .cons h .nil⟩

theorem trans (h : catalog.Extends inputs before between)
    (hfurther : catalog.Extends further between after) :
    catalog.Extends (inputs ++ further) before after := by
  obtain ⟨params, hparams, binds⟩ := h
  obtain ⟨more, hmore, bindsMore⟩ := hfurther
  exact ⟨params ++ more, by rw [hmore, hparams, List.append_assoc], List.rel_append binds bindsMore⟩

end Extends

end Catalog

/-! ## Lowering -/

namespace Condition

variable {catalog : Catalog}

theorem yields_lowerValues {field : String} {values : List Value} {before after : Bindings}
    {slots : List Nat} (h : (lowerValues catalog field values).Yields before slots after) :
    slots = List.range' (before.params.length + 1) values.length ∧
      catalog.Extends (values.map (.value field)) before after := by
  induction values generalizing before slots with
  | nil =>
      obtain ⟨rfl, rfl⟩ := Lowering.yields_pure.mp h
      exact ⟨rfl, .refl rfl⟩
  | cons value values ih =>
      simp only [lowerValues, Lowering.yields_bind, Lowering.yields_lift,
        Lowering.yields_bindValue, Lowering.yields_pure] at h
      obtain ⟨param, _, ⟨hparam, rfl⟩, slot, _, ⟨rfl, rfl⟩, others, _, hothers, rfl, rfl⟩ := h
      obtain ⟨rfl, bound⟩ := ih hothers
      have first : catalog.Extends [.value field value] before (before.push param) :=
        .push (Catalog.binds_value_iff.mpr hparam) rfl
      refine ⟨?_, first.trans bound⟩
      rw [List.length_cons, List.range'_succ, first.length_eq]
      rfl

-- By recursion on the condition.  A part starts to bind where the part before it
-- ended, which is what `predicates` counts.
mutual

theorem yields_lower :
    ∀ (condition : Condition) {before after : Bindings} {predicate : Sql.Predicate},
      (condition.lower catalog).Yields before predicate after →
        predicate = condition.predicate catalog before.params.length ∧
          catalog.Extends condition.inputs before after
  | .eq field value, before, after, predicate, h => by
      simp only [lower, Lowering.yields_bind, Lowering.yields_lift, Lowering.yields_bindValue,
        Lowering.yields_pure] at h
      obtain ⟨column, between, hcolumn, param, _, ⟨hparam, rfl⟩, slot, _, ⟨rfl, rfl⟩, rfl,
        rfl⟩ := h
      obtain ⟨rfl, hparams⟩ := Lowering.yields_column hcolumn
      refine ⟨?_, .push (Catalog.binds_value_iff.mpr hparam) hparams⟩
      rw [hparams, Condition.predicate]
  | .oneOf field [], before, after, predicate, h => by
      simp only [lower, List.isEmpty_nil, if_true, Lowering.yields_bind,
        Lowering.yields_pure] at h
      obtain ⟨column, between, hcolumn, rfl, rfl⟩ := h
      exact ⟨rfl, .refl (Lowering.yields_column hcolumn).2⟩
  | .oneOf field (first :: others), before, after, predicate, h => by
      simp only [lower, List.isEmpty_cons, Bool.false_eq_true, if_false, Lowering.yields_bind,
        Lowering.yields_pure] at h
      obtain ⟨column, between, hcolumn, slots, _, hslots, rfl, rfl⟩ := h
      obtain ⟨rfl, hparams⟩ := Lowering.yields_column hcolumn
      obtain ⟨rfl, bound⟩ := yields_lowerValues hslots
      refine ⟨?_, (Catalog.Extends.refl hparams).trans bound⟩
      rw [hparams, Condition.predicate]
  | .like field pattern, before, after, predicate, h => by
      simp only [lower, Lowering.yields_bind, Lowering.yields_bindValue,
        Lowering.yields_pure] at h
      obtain ⟨column, between, hcolumn, slot, _, ⟨rfl, rfl⟩, rfl, rfl⟩ := h
      obtain ⟨rfl, hparams⟩ := Lowering.yields_column hcolumn
      refine ⟨?_, .push rfl hparams⟩
      rw [hparams, Condition.predicate]
  | .between field low high, before, after, predicate, h => by
      simp only [lower, Lowering.yields_bind, Lowering.yields_lift, Lowering.yields_bindValue,
        Lowering.yields_pure] at h
      obtain ⟨column, between, hcolumn, lowParam, _, ⟨hlow, rfl⟩, highParam, _,
        ⟨hhigh, rfl⟩, _, _, ⟨rfl, rfl⟩, _, _, ⟨rfl, rfl⟩, rfl, rfl⟩ := h
      obtain ⟨rfl, hparams⟩ := Lowering.yields_column hcolumn
      have first : catalog.Extends [.value field low] before (between.push lowParam) :=
        .push (Catalog.binds_value_iff.mpr hlow) hparams
      refine ⟨?_, first.trans (.push (Catalog.binds_value_iff.mpr hhigh) rfl)⟩
      rw [first.length_eq, hparams, Condition.predicate]
      rfl
  | .fullText field query, before, after, predicate, h => by
      simp only [lower, Lowering.yields_bind, Lowering.yields_bindValue,
        Lowering.yields_pure] at h
      obtain ⟨column, between, hcolumn, slot, _, ⟨rfl, rfl⟩, rfl, rfl⟩ := h
      obtain ⟨rfl, hparams⟩ := Lowering.yields_column hcolumn
      refine ⟨?_, .push rfl hparams⟩
      rw [hparams, Condition.predicate]
  | .all parts, before, after, predicate, h => by
      simp only [lower, Lowering.yields_bind, Lowering.yields_pure] at h
      obtain ⟨predicates, _, hparts, rfl, rfl⟩ := h
      obtain ⟨rfl, bound⟩ := yields_lowerAll parts hparts
      exact ⟨rfl, bound⟩
  | .any parts, before, after, predicate, h => by
      simp only [lower, Lowering.yields_bind, Lowering.yields_pure] at h
      obtain ⟨predicates, _, hparts, rfl, rfl⟩ := h
      obtain ⟨rfl, bound⟩ := yields_lowerAll parts hparts
      exact ⟨rfl, bound⟩
  | .not part, before, after, predicate, h => by
      simp only [lower, Lowering.yields_bind, Lowering.yields_pure] at h
      obtain ⟨predicate, _, hpart, rfl, rfl⟩ := h
      obtain ⟨rfl, bound⟩ := yields_lower part hpart
      exact ⟨rfl, bound⟩

theorem yields_lowerAll :
    ∀ (parts : List Condition) {before after : Bindings} {predicates : List Sql.Predicate},
      (lowerAll catalog parts).Yields before predicates after →
        predicates = Condition.predicates catalog before.params.length parts ∧
          catalog.Extends (inputsOf parts) before after
  | [], before, after, predicates, h => by
      obtain ⟨rfl, rfl⟩ := Lowering.yields_pure.mp h
      exact ⟨rfl, .refl rfl⟩
  | part :: parts, before, after, predicates, h => by
      simp only [lowerAll, Lowering.yields_bind, Lowering.yields_pure] at h
      obtain ⟨predicate, between, hpart, others, _, hothers, rfl, rfl⟩ := h
      obtain ⟨rfl, first⟩ := yields_lower part hpart
      obtain ⟨rfl, rest⟩ := yields_lowerAll parts hothers
      refine ⟨?_, first.trans rest⟩
      rw [first.length_eq, Condition.predicates]

end

/-! ## Conditions that are lowered -/

theorem exists_yields_lowerValues {field : String} {values : List Value}
    (h : catalog.Bindable (values.map (.value field))) (before : Bindings) :
    ∃ slots after, (lowerValues catalog field values).Yields before slots after := by
  induction values generalizing before with
  | nil => exact ⟨_, _, Lowering.yields_pure.mpr ⟨rfl, rfl⟩⟩
  | cons value values ih =>
      obtain ⟨first, rest⟩ := List.forall_mem_cons.mp h
      obtain ⟨param, hparam⟩ := first
      obtain ⟨slots, after, hslots⟩ := ih rest (before.push param)
      simp only [lowerValues, Lowering.yields_bind, Lowering.yields_lift,
        Lowering.yields_bindValue, Lowering.yields_pure]
      exact ⟨_, _, param, _, ⟨Catalog.binds_value_iff.mp hparam, rfl⟩, _, _, ⟨rfl, rfl⟩, _, _,
        hslots, rfl, rfl⟩

mutual

theorem exists_yields_lower :
    ∀ (condition : Condition), catalog.Bindable condition.inputs → ∀ before,
      ∃ predicate after, (condition.lower catalog).Yields before predicate after
  | .eq field value, h, before => by
      obtain ⟨between, hcolumn⟩ := Lowering.exists_yields_column catalog field before
      obtain ⟨param, hparam⟩ := h (.value field value) (List.mem_singleton.mpr rfl)
      simp only [lower, Lowering.yields_bind, Lowering.yields_lift, Lowering.yields_bindValue,
        Lowering.yields_pure]
      exact ⟨_, _, _, _, hcolumn, param, _, ⟨Catalog.binds_value_iff.mp hparam, rfl⟩, _, _,
        ⟨rfl, rfl⟩, rfl, rfl⟩
  | .oneOf field [], _, before => by
      obtain ⟨between, hcolumn⟩ := Lowering.exists_yields_column catalog field before
      simp only [lower, List.isEmpty_nil, if_true, Lowering.yields_bind, Lowering.yields_pure]
      exact ⟨_, _, _, _, hcolumn, rfl, rfl⟩
  | .oneOf field (first :: others), h, before => by
      obtain ⟨between, hcolumn⟩ := Lowering.exists_yields_column catalog field before
      obtain ⟨slots, after, hslots⟩ := exists_yields_lowerValues h between
      simp only [lower, List.isEmpty_cons, Bool.false_eq_true, if_false, Lowering.yields_bind,
        Lowering.yields_pure]
      exact ⟨_, _, _, _, hcolumn, _, _, hslots, rfl, rfl⟩
  | .like field pattern, _, before => by
      obtain ⟨between, hcolumn⟩ := Lowering.exists_yields_column catalog field before
      simp only [lower, Lowering.yields_bind, Lowering.yields_bindValue, Lowering.yields_pure]
      exact ⟨_, _, _, _, hcolumn, _, _, ⟨rfl, rfl⟩, rfl, rfl⟩
  | .between field low high, h, before => by
      obtain ⟨between, hcolumn⟩ := Lowering.exists_yields_column catalog field before
      obtain ⟨first, rest⟩ := List.forall_mem_cons.mp h
      obtain ⟨lowParam, hlow⟩ := first
      obtain ⟨highParam, hhigh⟩ := rest (.value field high) (List.mem_singleton.mpr rfl)
      simp only [lower, Lowering.yields_bind, Lowering.yields_lift, Lowering.yields_bindValue,
        Lowering.yields_pure]
      exact ⟨_, _, _, _, hcolumn, lowParam, _, ⟨Catalog.binds_value_iff.mp hlow, rfl⟩, highParam,
        _, ⟨Catalog.binds_value_iff.mp hhigh, rfl⟩, _, _, ⟨rfl, rfl⟩, _, _, ⟨rfl, rfl⟩, rfl, rfl⟩
  | .fullText field query, _, before => by
      obtain ⟨between, hcolumn⟩ := Lowering.exists_yields_column catalog field before
      simp only [lower, Lowering.yields_bind, Lowering.yields_bindValue, Lowering.yields_pure]
      exact ⟨_, _, _, _, hcolumn, _, _, ⟨rfl, rfl⟩, rfl, rfl⟩
  | .all parts, h, before => by
      obtain ⟨predicates, after, hparts⟩ := exists_yields_lowerAll parts h before
      simp only [lower, Lowering.yields_bind, Lowering.yields_pure]
      exact ⟨_, _, _, _, hparts, rfl, rfl⟩
  | .any parts, h, before => by
      obtain ⟨predicates, after, hparts⟩ := exists_yields_lowerAll parts h before
      simp only [lower, Lowering.yields_bind, Lowering.yields_pure]
      exact ⟨_, _, _, _, hparts, rfl, rfl⟩
  | .not part, h, before => by
      obtain ⟨predicate, after, hpart⟩ := exists_yields_lower part h before
      simp only [lower, Lowering.yields_bind, Lowering.yields_pure]
      exact ⟨_, _, _, _, hpart, rfl, rfl⟩

theorem exists_yields_lowerAll :
    ∀ (parts : List Condition), catalog.Bindable (inputsOf parts) → ∀ before,
      ∃ predicates after, (lowerAll catalog parts).Yields before predicates after
  | [], _, before => ⟨_, _, Lowering.yields_pure.mpr ⟨rfl, rfl⟩⟩
  | part :: parts, h, before => by
      obtain ⟨first, rest⟩ := List.forall_mem_append.mp h
      obtain ⟨predicate, between, hpart⟩ := exists_yields_lower part first before
      obtain ⟨predicates, after, hparts⟩ := exists_yields_lowerAll parts rest between
      simp only [lowerAll, Lowering.yields_bind, Lowering.yields_pure]
      exact ⟨_, _, _, _, hpart, _, _, hparts, rfl, rfl⟩

end

end Condition

end Stockroom
