import Stockroom.Proofs.Query.Inputs
import Stockroom.Proofs.Sql.Reading

/-!
# The meaning of conditions

A condition has a truth value once its tests are judged on the resolved columns
and the coerced operands.  The predicate that it is lowered to has the same
truth value under the parameters that were bound for it, and under any that are
bound later.
-/

namespace Stockroom

open Sql (Expr)

/-! ## Catalogs and operands -/

namespace Catalog

/-- Every column can stand in a text under its own name. -/
structure Plain (catalog : Catalog) : Prop where
  id : Sql.isPlain catalog.id.name = true
  fallback : Sql.isPlain catalog.fallback.name = true
  fields : ∀ entry ∈ catalog.fields, Sql.isPlain entry.2.name = true

theorem Plain.resolve {catalog : Catalog} (h : catalog.Plain) (field : String) :
    Sql.isPlain (catalog.resolve field).name = true := by
  rw [Catalog.resolve]
  cases hfound : catalog.column? field with
  | none => exact h.fallback
  | some column =>
      obtain ⟨before, after, hfields, -⟩ := List.lookup_eq_some_iff.mp hfound
      exact h.fields (field, column) (by simp [hfields])

/-- An operand as its column compares it; what is no value of the column stays as it is. -/
def coerced (catalog : Catalog) (field : String) (value : Value) : Value :=
  match catalog.operand field value with
  | .ok operand => operand
  | .error _ => value

theorem coerced_of_operand {catalog : Catalog} {field : String} {value operand : Value}
    (h : catalog.operand field value = .ok operand) : catalog.coerced field value = operand := by
  rw [coerced, h]

/-- The parameter that is bound for an input. -/
def param (catalog : Catalog) : Condition.Input → Value
  | .value field value => catalog.coerced field value
  | .text text => .text text

theorem param_of_binds {catalog : Catalog} {input : Condition.Input} {param : Value}
    (h : catalog.Binds input param) : catalog.param input = param := by
  cases input with
  | value field value => exact coerced_of_operand (binds_value_iff.mp h)
  | text text => exact h.symm

theorem params_of_binds {catalog : Catalog} {inputs : List Condition.Input}
    {params : List Value} (h : List.Forall₂ catalog.Binds inputs params) :
    params = inputs.map catalog.param := by
  induction h with
  | nil => rfl
  | cons first _ ih => rw [List.map_cons, param_of_binds first, ← ih]

theorem Extends.params_eq {catalog : Catalog} {inputs : List Condition.Input}
    {before after : Bindings} (h : catalog.Extends inputs before after) :
    after.params = before.params ++ inputs.map catalog.param := by
  obtain ⟨params, hparams, binds⟩ := h
  rw [hparams, params_of_binds binds]

end Catalog

/-! ## Values in slots -/

/-- The slots behind the first `count` hold the values, one after the other. -/
def Holds (params : List Value) (count : Nat) (values : List Value) : Prop :=
  values <+: params.drop count

namespace Holds

variable {params values : List Value} {count : Nat} {value : Value}

theorem behind (before : List Value) (h : before ++ values <+: params) :
    Holds params before.length values := by
  obtain ⟨more, rfl⟩ := h
  exact ⟨more, by rw [List.append_assoc, List.drop_left]⟩

theorem bound_first (h : Holds params count (value :: values)) :
    Expr.bound params (count + 1) = value := by
  obtain ⟨more, hmore⟩ := h
  have first := congrArg List.head? hmore
  rw [List.head?_drop] at first
  simp [Expr.bound, ← first]

theorem append {front back : List Value} (h : Holds params count (front ++ back)) :
    Holds params count front ∧ Holds params (count + front.length) back := by
  obtain ⟨more, hmore⟩ := h
  refine ⟨⟨back ++ more, by rw [← hmore, List.append_assoc]⟩, more, ?_⟩
  rw [← List.drop_drop, ← hmore, List.append_assoc, List.drop_left]

theorem tail (h : Holds params count (value :: values)) : Holds params (count + 1) values :=
  (append (show Holds params count ([value] ++ values) from h)).2

theorem map_bound (h : Holds params count values) :
    (List.range' (count + 1) values.length).map (Expr.bound params) = values := by
  induction values generalizing count with
  | nil => rfl
  | cons value values ih =>
      rw [List.length_cons, List.range'_succ, List.map_cons, h.bound_first, ih h.tail]

end Holds

/-! ## Truth of conditions -/

namespace Condition

mutual

/-- The truth value of a condition, where `judge` decides its tests. -/
def truth (catalog : Catalog) (judge : Sql.Test Value → Truth) : Condition → Truth
  | .eq field value =>
      judge (.compare (catalog.resolve field).name .equal (catalog.coerced field value))
  | .oneOf _ [] => .fails
  | .oneOf field (first :: others) =>
      judge (.member (catalog.resolve field).name (catalog.coerced field first)
        (others.map (catalog.coerced field)))
  | .like field pattern => judge (.compare (catalog.resolve field).name .like (.text pattern))
  | .between field low high =>
      (judge (.compare (catalog.resolve field).name .atLeast (catalog.coerced field low))).and
        (judge (.compare (catalog.resolve field).name .atMost (catalog.coerced field high)))
  | .fullText field query => judge (.search (catalog.resolve field).name (.text query))
  | .all parts => .all (truths catalog judge parts)
  | .any parts => .any (truths catalog judge parts)
  | .not part => (truth catalog judge part).not

def truths (catalog : Catalog) (judge : Sql.Test Value → Truth) : List Condition → List Truth
  | [] => []
  | part :: parts => truth catalog judge part :: truths catalog judge parts

end

/-! ## Lowering keeps the meaning -/

/-- What lowering a condition promises of its predicate and of the bindings. -/
structure Lowered (catalog : Catalog) (before after : Bindings) (condition : Condition)
    (predicate : Sql.Predicate) : Prop where
  plain : predicate.Plain
  kept : before.params <+: after.params
  meaning : ∀ judge params, after.params <+: params →
    predicate.expr.truth judge params = condition.truth catalog judge

mutual

theorem plain_predicate {catalog : Catalog} (hcatalog : catalog.Plain) :
    ∀ (condition : Condition) (count : Nat), (condition.predicate catalog count).Plain
  | .eq field _, count => .compare (hcatalog.resolve field) _ _
  | .oneOf _ [], count => .constant false
  | .oneOf field (_ :: _), count => .member (hcatalog.resolve field) _ _
  | .like field _, count => .compare (hcatalog.resolve field) _ _
  | .between field _ _, count => by
      refine .conjunction fun part hpart => ?_
      simp only [List.mem_cons, List.not_mem_nil, or_false] at hpart
      rcases hpart with rfl | rfl <;> exact .compare (hcatalog.resolve field) _ _
  | .fullText field _, count => .search (hcatalog.resolve field) _
  | .all parts, count => .conjunction (plain_predicates hcatalog parts count)
  | .any parts, count => .disjunction (plain_predicates hcatalog parts count)
  | .not part, count => .negation (plain_predicate hcatalog part count)

theorem plain_predicates {catalog : Catalog} (hcatalog : catalog.Plain) :
    ∀ (parts : List Condition) (count : Nat),
      ∀ predicate ∈ predicates catalog count parts, predicate.Plain
  | [], _, predicate, h => by cases h
  | part :: parts, count, predicate, h => by
      rcases List.mem_cons.mp h with rfl | rest
      · exact plain_predicate hcatalog part count
      · exact plain_predicates hcatalog parts _ predicate rest

end

mutual

theorem truth_predicate {catalog : Catalog} {judge : Sql.Test Value → Truth}
    {params : List Value} :
    ∀ (condition : Condition) {count : Nat},
      Holds params count (condition.inputs.map catalog.param) →
        (condition.predicate catalog count).expr.truth judge params =
          condition.truth catalog judge
  | .eq field value, count, h => by
      rw [predicate, Sql.Predicate.expr, Expr.truth, Expr.outcome, Sql.Test.map, h.bound_first,
        truth]
      rfl
  | .oneOf _ [], count, h => rfl
  | .oneOf field (first :: others), count, h => by
      rw [inputs, List.map_map, List.map_cons] at h
      have rest := h.tail.map_bound
      rw [List.length_map] at rest
      rw [predicate, List.length_cons, List.range'_succ, Sql.Predicate.expr, Expr.truth,
        Expr.outcome, Sql.Test.map, h.bound_first, rest, truth]
      rfl
  | .like field pattern, count, h => by
      rw [predicate, Sql.Predicate.expr, Expr.truth, Expr.outcome, Sql.Test.map, h.bound_first,
        truth]
      rfl
  | .between field low high, count, h => by
      rw [predicate, Expr.truth, Sql.Predicate.outcome_conjunction, truth]
      simp only [List.map_cons, List.map_nil, Truth.all_cons, Truth.all_nil, Truth.and_holds,
        Sql.Predicate.expr, Expr.outcome, Sql.Test.map, h.bound_first, h.tail.bound_first]
      rfl
  | .fullText field query, count, h => by
      rw [predicate, Sql.Predicate.expr, Expr.truth, Expr.outcome, Sql.Test.map, h.bound_first,
        truth]
      rfl
  | .all parts, count, h => by
      rw [predicate, Expr.truth, Sql.Predicate.outcome_conjunction, truth,
        ← truths_predicates parts h]
      rfl
  | .any parts, count, h => by
      rw [predicate, Expr.truth, Sql.Predicate.outcome_disjunction, truth,
        ← truths_predicates parts h]
      rfl
  | .not part, count, h => by
      rw [predicate, Sql.Predicate.expr, Expr.truth, Expr.outcome, truth,
        ← truth_predicate part h]
      rfl

theorem truths_predicates {catalog : Catalog} {judge : Sql.Test Value → Truth}
    {params : List Value} :
    ∀ (parts : List Condition) {count : Nat},
      Holds params count ((inputsOf parts).map catalog.param) →
        ((predicates catalog count parts).map fun predicate => predicate.expr.truth judge params) =
          truths catalog judge parts
  | [], _, _ => rfl
  | part :: parts, count, h => by
      rw [inputsOf, List.map_append] at h
      obtain ⟨first, rest⟩ := h.append
      rw [List.length_map] at rest
      rw [predicates, List.map_cons, truths, truth_predicate part first,
        truths_predicates parts rest]

end

theorem lowered {catalog : Catalog} (hcatalog : catalog.Plain) (condition : Condition)
    {before after : Bindings} {predicate : Sql.Predicate}
    (h : (condition.lower catalog).Yields before predicate after) :
    Lowered catalog before after condition predicate := by
  obtain ⟨rfl, bound⟩ := yields_lower condition h
  refine ⟨plain_predicate hcatalog condition _, ?_, fun judge params hpast => ?_⟩
  · rw [bound.params_eq]
    exact List.prefix_append _ _
  · rw [bound.params_eq] at hpast
    exact truth_predicate condition (.behind _ hpast)

end Condition

end Stockroom
