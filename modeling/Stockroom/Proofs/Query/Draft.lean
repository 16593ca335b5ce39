import Stockroom.Proofs.Query.SortKey
import Stockroom.Proofs.Query.Translation

/-!
# The meaning of drafts

The condition of a draft is built in one of three ways, for none, one or several
conditions put into it.  In each of them its truth value is that of all of these
conditions together, and its inputs are theirs.
-/

namespace Stockroom

theorem Condition.truths_eq_map (catalog : Catalog) (judge : Sql.Test Value → Truth)
    (parts : List Condition) :
    truths catalog judge parts = parts.map (truth catalog judge) := by
  induction parts with
  | nil => rfl
  | cons part parts ih => rw [truths, ih, List.map_cons]

theorem Condition.inputsOf_append (parts others : List Condition) :
    inputsOf (parts ++ others) = inputsOf parts ++ inputsOf others := by
  induction parts with
  | nil => rfl
  | cons part parts ih => rw [List.cons_append, inputsOf, inputsOf, ih, List.append_assoc]

namespace Draft

variable (catalog : Catalog) (judge : Sql.Test Value → Truth)

/-- The truth value of all conditions of a draft together. -/
def truth (draft : Draft) : Truth := .all (draft.conditions.map (Condition.truth catalog judge))

theorem clauseTruth_condition? (draft : Draft) :
    Condition.clauseTruth catalog judge draft.condition? = draft.truth catalog judge := by
  unfold condition? truth
  match draft.conditions with
  | [] => rfl
  | [condition] =>
      rw [List.map_cons, List.map_nil, Truth.all_cons, Truth.all_nil, Truth.and_holds]
      rfl
  | first :: second :: rest =>
      rw [← Condition.truths_eq_map]
      rfl

@[simp] theorem truth_empty : empty.truth catalog judge = .holds := rfl

@[simp] theorem truth_require (draft : Draft) (condition : Condition) :
    (draft.require condition).truth catalog judge =
      (draft.truth catalog judge).and (condition.truth catalog judge) := by
  rw [truth, require, List.map_append, Truth.all_append, List.map_singleton, Truth.all_cons,
    Truth.all_nil, Truth.and_holds]
  rfl

/-- Alternatives are a condition only if there are any. -/
theorem truth_requireAny {parts : List Condition} (h : parts ≠ []) (draft : Draft) :
    (draft.requireAny parts).truth catalog judge =
      (draft.truth catalog judge).and (.any (parts.map (Condition.truth catalog judge))) := by
  cases parts with
  | nil => exact absurd rfl h
  | cons first rest =>
      rw [requireAny, truth_require, Condition.truth, Condition.truths_eq_map]
      exact fun empty => absurd empty (List.cons_ne_nil _ _)

/-! ## Inputs -/

/-- The inputs of all conditions of a draft in order. -/
def inputs (draft : Draft) : List Condition.Input := Condition.inputsOf draft.conditions

theorem clauseInputs_condition? (draft : Draft) :
    Condition.clauseInputs draft.condition? = draft.inputs := by
  unfold condition? inputs
  match draft.conditions with
  | [] => rfl
  | [condition] => exact (List.append_nil condition.inputs).symm
  | first :: second :: rest => rfl

theorem inputs_require (draft : Draft) (condition : Condition) :
    (draft.require condition).inputs = draft.inputs ++ condition.inputs := by
  rw [inputs, require, Condition.inputsOf_append, Condition.inputsOf, Condition.inputsOf,
    List.append_nil]
  rfl

/-! ## Sort keys -/

theorem orderBy_eq (draft : Draft) (text : String) :
    draft.orderBy text = { draft with
      sorting := draft.sorting ++ (if Text.trim text = "" then [] else [SortKey.parse text]) } := by
  simp only [orderBy, List.isEmpty_iff, ← Text.trim_eq_empty_iff]
  split
  · rw [List.append_nil]
  · rfl

/-- Several texts add the keys of those that are not blank. -/
theorem foldl_orderBy (texts : List String) (draft : Draft) :
    texts.foldl orderBy draft = { draft with
      sorting := draft.sorting ++
        (texts.filter fun text => Text.trim text ≠ "").map SortKey.parse } := by
  induction texts generalizing draft with
  | nil => rw [List.foldl_nil, List.filter_nil, List.map_nil, List.append_nil]
  | cons text texts ih =>
      rw [List.foldl_cons, ih, orderBy_eq]
      by_cases blank : Text.trim text = "" <;> simp [blank]

@[simp] theorem truth_foldl_orderBy (texts : List String) (draft : Draft) :
    (texts.foldl orderBy draft).truth catalog judge = draft.truth catalog judge := by
  rw [foldl_orderBy]
  rfl

@[simp] theorem truth_paginate (draft : Draft) (page size : UInt32) :
    (draft.paginate page size).truth catalog judge = draft.truth catalog judge := rfl

end Draft

end Stockroom
