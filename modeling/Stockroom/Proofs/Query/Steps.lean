import Stockroom.Proofs.Query.Draft

/-!
# Drafts step by step

A draft is filled step by step, and every step adds to one part of it.  What is
built in the end is told by what the steps give to each part: conditions, sort
keys and fields stand in the order of their steps, and of the pages, the sizes and
the cursors the last one counts.
-/

namespace Stockroom

theorem Selection.toNat_offset (selection : Selection) :
    selection.offset.toNat = (selection.page.toNat - 1) * selection.size.toNat := by
  have least : 1 ≤ selection.page := selection.page_pos
  have before : (selection.page - 1).toNat = selection.page.toNat - 1 :=
    UInt32.toNat_sub_of_le _ _ least
  have bound : (selection.page.toNat - 1) * selection.size.toNat < 2 ^ 32 * 2 ^ 32 := by
    apply Nat.mul_lt_mul''
    · have pages := selection.page.toNat_lt
      omega
    · exact selection.size.toNat_lt
  rw [offset, UInt64.toNat_mul, UInt32.toNat_toUInt64, UInt32.toNat_toUInt64, before]
  exact Nat.mod_eq_of_lt bound

namespace Draft

/-! ## Steps -/

/-- One thing put into a draft; a test of a field is a condition that is required. -/
inductive Step where
  | require (condition : Condition)
  | requireAll (parts : List Condition)
  | requireAny (parts : List Condition)
  | exclude (condition : Condition)
  | orderBy (text : String)
  | paginate (page size : UInt32)
  | select (fields : List String)
  | continueFrom (cursor : Cursor)
  deriving Repr

inductive Part where
  | condition
  | sorting
  | window
  | fields
  | cursor
  deriving DecidableEq, Repr

namespace Step

@[simp] def apply (draft : Draft) : Step → Draft
  | require condition => draft.require condition
  | requireAll parts => draft.requireAll parts
  | requireAny parts => draft.requireAny parts
  | exclude condition => draft.exclude condition
  | orderBy text => draft.orderBy text
  | paginate page size => draft.paginate page size
  | select fields => draft.select fields
  | continueFrom cursor => draft.continueFrom cursor

def part : Step → Part
  | require _ | requireAll _ | requireAny _ | exclude _ => .condition
  | orderBy _ => .sorting
  | paginate _ _ => .window
  | select _ => .fields
  | continueFrom _ => .cursor

/-! ## What a step gives to each part -/

@[simp] def conditions : Step → List Condition
  | require condition => [condition]
  | requireAll [] | requireAny [] => []
  | requireAll parts => [.all parts]
  | requireAny parts => [.any parts]
  | exclude condition => [condition.negate]
  | _ => []

@[simp] def sortTexts : Step → List String
  | orderBy text => [text]
  | _ => []

@[simp] def pages : Step → List UInt32
  | paginate page _ => [page]
  | _ => []

@[simp] def sizes : Step → List UInt32
  | paginate _ size => [size]
  | _ => []

@[simp] def fields : Step → List String
  | select fields => fields
  | _ => []

@[simp] def cursors : Step → List Cursor
  | continueFrom cursor => [cursor]
  | _ => []

end Step

/-- The texts that are not blank, as sort keys. -/
def sortKeys (texts : List String) : List SortKey :=
  (texts.filter fun text => Text.trim text ≠ "").map SortKey.parse

/-- The last number that is not zero. -/
def lastGiven (numbers : List UInt32) (default : UInt32) : UInt32 :=
  (numbers.filter (0 < ·)).getLast?.getD default

@[simp] theorem lastGiven_nil (default : UInt32) : lastGiven [] default = default := rfl

theorem lastGiven_append (numbers others : List UInt32) (default : UInt32) :
    lastGiven (numbers ++ others) default = lastGiven others (lastGiven numbers default) := by
  simp [lastGiven, List.getLast?_append, Option.getD_or]

theorem lastGiven_singleton (number default : UInt32) :
    lastGiven [number] default = orKeep default number := by
  by_cases zero : number = 0
  · simp [orKeep, lastGiven, zero]
  · simp [orKeep, lastGiven, zero, UInt32.pos_iff_ne_zero]

theorem lastGiven_pos {default : UInt32} (h : 0 < default) (numbers : List UInt32) :
    0 < lastGiven numbers default := by
  rw [lastGiven]
  cases hlast : (numbers.filter (0 < ·)).getLast? with
  | none => exact h
  | some number => exact of_decide_eq_true (List.mem_filter.mp (List.mem_of_getLast? hlast)).2

/-! ## Runs -/

/-- A draft with everything in it that the steps give. -/
def extended (draft : Draft) (steps : List Step) : Draft where
  conditions := draft.conditions ++ steps.flatMap Step.conditions
  sorting := draft.sorting ++ sortKeys (steps.flatMap Step.sortTexts)
  page := lastGiven (steps.flatMap Step.pages) draft.page
  size := lastGiven (steps.flatMap Step.sizes) draft.size
  fields := draft.fields ++ steps.flatMap Step.fields
  cursor := (steps.flatMap Step.cursors).getLast?.or draft.cursor
  page_pos := lastGiven_pos draft.page_pos _
  size_pos := lastGiven_pos draft.size_pos _

theorem apply_eq_extended (draft : Draft) (step : Step) :
    Step.apply draft step = draft.extended [step] := by
  cases step with
  | require condition => simp [extended, require, sortKeys]
  | requireAll parts => cases parts <;> simp [extended, requireAll, require, sortKeys]
  | requireAny parts => cases parts <;> simp [extended, requireAny, require, sortKeys]
  | exclude condition => simp [extended, exclude, require, sortKeys]
  | orderBy text => by_cases blank : Text.trim text = "" <;>
      simp [extended, orderBy_eq, sortKeys, blank]
  | paginate page size => simp [extended, paginate, lastGiven_singleton, sortKeys]
  | select fields => simp [extended, select, sortKeys]
  | continueFrom cursor => simp [extended, continueFrom, sortKeys]

theorem extended_append (draft : Draft) (steps others : List Step) :
    draft.extended (steps ++ others) = (draft.extended steps).extended others := by
  simp [extended, sortKeys, lastGiven_append, List.getLast?_append, Option.or_assoc]

def run (steps : List Step) : Draft := steps.foldl Step.apply empty

theorem foldl_apply_eq_extended (steps : List Step) (draft : Draft) :
    steps.foldl Step.apply draft = draft.extended steps := by
  induction steps generalizing draft with
  | nil => simp [extended, sortKeys]
  | cons step steps ih =>
      rw [List.foldl_cons, ih, apply_eq_extended, ← extended_append, List.singleton_append]

/-! ## Steps in another order -/

/-- The steps for each part are the same and in the same order, wherever other steps stand. -/
def Rearranged (steps others : List Step) : Prop :=
  ∀ part, others.filter (·.part = part) = steps.filter (·.part = part)

theorem flatMap_filter_part {α : Type} {given : Step → List α} {part : Part}
    (h : ∀ step : Step, step.part ≠ part → given step = []) (steps : List Step) :
    (steps.filter (·.part = part)).flatMap given = steps.flatMap given := by
  induction steps with
  | nil => rfl
  | cons step steps ih =>
      by_cases same : step.part = part
      · simp [same, ih]
      · simp [same, ih, h step same]

theorem Rearranged.flatMap_eq {steps others : List Step} (h : Rearranged steps others) {α : Type}
    {given : Step → List α} (part : Part) (hpart : ∀ step, step.part ≠ part → given step = []) :
    others.flatMap given = steps.flatMap given := by
  rw [← flatMap_filter_part hpart, h, flatMap_filter_part hpart]

theorem Rearranged.run_eq {steps others : List Step} (h : Rearranged steps others) :
    run others = run steps := by
  have conditions : others.flatMap Step.conditions = steps.flatMap Step.conditions :=
    h.flatMap_eq .condition fun step => by cases step <;> simp [Step.part]
  have sortTexts : others.flatMap Step.sortTexts = steps.flatMap Step.sortTexts :=
    h.flatMap_eq .sorting fun step => by cases step <;> simp [Step.part]
  have pages : others.flatMap Step.pages = steps.flatMap Step.pages :=
    h.flatMap_eq .window fun step => by cases step <;> simp [Step.part]
  have sizes : others.flatMap Step.sizes = steps.flatMap Step.sizes :=
    h.flatMap_eq .window fun step => by cases step <;> simp [Step.part]
  have fields : others.flatMap Step.fields = steps.flatMap Step.fields :=
    h.flatMap_eq .fields fun step => by cases step <;> simp [Step.part]
  have cursors : others.flatMap Step.cursors = steps.flatMap Step.cursors :=
    h.flatMap_eq .cursor fun step => by cases step <;> simp [Step.part]
  rw [run, run, foldl_apply_eq_extended, foldl_apply_eq_extended]
  simp only [extended, conditions, sortTexts, pages, sizes, fields, cursors]

/-! ## What is built -/

/--
Whatever steps fill a draft, nothing is lost and nothing is added: page and size are the
last numbers given that are not zero, sort keys and fields stand in the order given, the last
cursor counts, and the condition is that all conditions given hold.  So there is
a page and a size, the offset does not wrap, and steps for different parts may stand in
any order.
-/
theorem build_run (steps : List Step) :
    let selection := (run steps).build
    let conditions := steps.flatMap Step.conditions
    selection.page = lastGiven (steps.flatMap Step.pages) 1 ∧
    selection.size = lastGiven (steps.flatMap Step.sizes) 20 ∧
    selection.sorting = sortKeys (steps.flatMap Step.sortTexts) ∧
    selection.fields = steps.flatMap Step.fields ∧
    selection.cursor = (steps.flatMap Step.cursors).getLast? ∧
    selection.condition =
      (match conditions with
      | [] => none
      | [condition] => some condition
      | conditions => some (.all conditions)) ∧
    1 ≤ selection.page ∧ 1 ≤ selection.size ∧
    selection.offset.toNat = (selection.page.toNat - 1) * selection.size.toNat ∧
    (∀ (catalog : Catalog) (judge : Sql.Test Value → Truth),
      Condition.clauseTruth catalog judge selection.condition =
        .all (conditions.map (Condition.truth catalog judge))) ∧
    ∀ others, Rearranged steps others → (run others).build = selection := by
  have whole : run steps = empty.extended steps := foldl_apply_eq_extended steps empty
  have given : (run steps).conditions = steps.flatMap Step.conditions := by
    rw [whole]
    exact List.nil_append _
  refine ⟨?_, ?_, ?_, ?_, ?_, ?_, (run steps).page_pos, (run steps).size_pos,
    Selection.toNat_offset _, fun catalog judge => ?_, fun others h => ?_⟩
  · rw [whole]; rfl
  · rw [whole]; rfl
  · rw [whole]; exact List.nil_append _
  · rw [whole]; exact List.nil_append _
  · rw [whole]; exact Option.or_none
  · rw [← given]; rfl
  · rw [← given]
    exact clauseTruth_condition? catalog judge (run steps)
  · rw [h.run_eq]

/-- Zeros, a blank sort key and alternatives without any are steps that change nothing. -/
theorem build_run_of_drills :
    Rearranged
      [.paginate 3 0, .orderBy " ", .requireAny [], .exclude (.not (.like "name" "drill%")),
        .paginate 0 5, .orderBy "-brand"]
      [.requireAny [], .orderBy " ", .orderBy "-brand", .paginate 3 0, .paginate 0 5,
        .exclude (.not (.like "name" "drill%"))] ∧
    (run [.requireAny [], .orderBy " ", .orderBy "-brand", .paginate 3 0, .paginate 0 5,
        .exclude (.not (.like "name" "drill%"))]).build =
      (run [.paginate 3 0, .orderBy " ", .requireAny [], .exclude (.not (.like "name" "drill%")),
        .paginate 0 5, .orderBy "-brand"]).build ∧
    (run [.paginate 3 0, .orderBy " ", .requireAny [], .exclude (.not (.like "name" "drill%")),
        .paginate 0 5, .orderBy "-brand"]).build.offset.toNat = 10 := by
  obtain ⟨page, size, -, -, -, -, -, -, offset, -, anyOrder⟩ := build_run
    [.paginate 3 0, .orderBy " ", .requireAny [], .exclude (.not (.like "name" "drill%")),
      .paginate 0 5, .orderBy "-brand"]
  have rearranged : Rearranged
      [.paginate 3 0, .orderBy " ", .requireAny [], .exclude (.not (.like "name" "drill%")),
        .paginate 0 5, .orderBy "-brand"]
      [.requireAny [], .orderBy " ", .orderBy "-brand", .paginate 3 0, .paginate 0 5,
        .exclude (.not (.like "name" "drill%"))] := by
    intro part
    cases part <;> rfl
  refine ⟨rearranged, anyOrder _ rearranged, ?_⟩
  rw [offset, page, size]
  rfl

end Draft

end Stockroom
