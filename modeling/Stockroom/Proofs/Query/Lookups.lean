import Stockroom.Proofs.Query.Translation

/-!
# Look-ups of fields

Each place where a selection names a field is looked up once, and a field without a
column of its own leaves one fallback there.  `LooksUp` says which fields a lowering
looks up if it ends well, and is put together along the steps of the lowering.
-/

namespace Stockroom

/-! ## Fields and their fallbacks -/

namespace Condition

mutual

/-- The fields of the tests of a condition from left to right. -/
def fields : Condition → List String
  | .eq field _ => [field]
  | .oneOf field _ => [field]
  | .like field _ => [field]
  | .between field _ _ => [field]
  | .fullText field _ => [field]
  | .all parts => fieldsOf parts
  | .any parts => fieldsOf parts
  | .not part => part.fields

def fieldsOf : List Condition → List String
  | [] => []
  | part :: parts => part.fields ++ fieldsOf parts

end

def clauseFields : Option Condition → List String
  | none => []
  | some condition => condition.fields

end Condition

namespace Catalog

/-- What is recorded for fields: one fallback for each that has no column of its own. -/
def fallbacksOf (catalog : Catalog) (fields : List String) : List Fallback :=
  (fields.filter fun field => (catalog.column? field).isNone).map fun field =>
    ⟨field, catalog.fallback.name⟩

theorem fallbacksOf_append (catalog : Catalog) (fields others : List String) :
    catalog.fallbacksOf (fields ++ others) =
      catalog.fallbacksOf fields ++ catalog.fallbacksOf others := by
  rw [fallbacksOf, List.filter_append, List.map_append]
  rfl

theorem unregistered_of_mem_fallbacksOf {catalog : Catalog} {fields : List String}
    {fallback : Fallback} (h : fallback ∈ catalog.fallbacksOf fields) :
    catalog.column? fallback.field = none ∧ fallback.column = catalog.fallback.name := by
  obtain ⟨field, hfield, rfl⟩ := List.mem_map.mp h
  exact ⟨Option.isNone_iff_eq_none.mp (List.mem_filter.mp hfield).2, rfl⟩

end Catalog

/-! ## Lowerings that look up fields -/

namespace Lowering

/-- If it ends well, the lowering has looked up these fields in this order. -/
structure LooksUp (catalog : Catalog) {α : Type} (run : Lowering α) (fields : List String) :
    Prop where
  fallbacks : ∀ {before after : Bindings} {result : α}, run.Yields before result after →
    after.fallbacks = before.fallbacks ++ catalog.fallbacksOf fields

namespace LooksUp

variable {catalog : Catalog} {α β : Type} {run : Lowering α} {next : α → Lowering β}
  {fields further : List String}

theorem pure (a : α) : LooksUp catalog (pure a : Lowering α) [] := by
  constructor
  intro before after result h
  obtain ⟨-, rfl⟩ := yields_pure.mp h
  exact (List.append_nil _).symm

theorem lift (result : Except QueryFault α) :
    LooksUp catalog (liftM result : Lowering α) [] := by
  constructor
  intro before after a h
  obtain ⟨-, rfl⟩ := yields_lift.mp h
  exact (List.append_nil _).symm

theorem bindValue (value : Value) : LooksUp catalog (Lowering.bind value) [] := by
  constructor
  intro before after slot h
  obtain ⟨-, rfl⟩ := yields_bindValue.mp h
  exact (List.append_nil _).symm

theorem column (catalog : Catalog) (field : String) :
    LooksUp catalog (Lowering.column catalog field) [field] := by
  constructor
  intro before after column h
  rw [Lowering.column] at h
  cases hcolumn : catalog.column? field with
  | some found =>
      simp only [hcolumn, yields_pure] at h
      obtain ⟨-, rfl⟩ := h
      simp [Catalog.fallbacksOf, hcolumn]
  | none =>
      simp only [hcolumn, yields_bind, yields_modify, yields_pure] at h
      obtain ⟨-, -, rfl, -, rfl⟩ := h
      simp [Catalog.fallbacksOf, hcolumn, Bindings.note]

theorem bind (hrun : LooksUp catalog run fields) (hnext : ∀ a, LooksUp catalog (next a) further) :
    LooksUp catalog (run >>= next) (fields ++ further) := by
  constructor
  intro before after result h
  obtain ⟨a, between, hyields, hafter⟩ := yields_bind.mp h
  rw [(hnext a).fallbacks hafter, hrun.fallbacks hyields, catalog.fallbacksOf_append,
    List.append_assoc]

/-- A step in front that looks up nothing. -/
theorem behind (hrun : LooksUp catalog run []) (hnext : ∀ a, LooksUp catalog (next a) fields) :
    LooksUp catalog (run >>= next) fields :=
  hrun.bind hnext

/-- A last step that looks up nothing. -/
theorem then_pure (hrun : LooksUp catalog run fields) (f : α → β) :
    LooksUp catalog (run >>= fun a => Pure.pure (f a)) fields := by
  have both : LooksUp catalog (run >>= fun a => Pure.pure (f a)) (fields ++ []) :=
    hrun.bind fun a => pure (f a)
  rwa [List.append_nil] at both

end LooksUp

end Lowering

open Lowering (LooksUp)

/-! ## Conditions -/

namespace Condition

variable {catalog : Catalog}

theorem looksUp_lowerValues (field : String) (values : List Value) :
    LooksUp catalog (lowerValues catalog field values) [] := by
  induction values with
  | nil => exact .pure _
  | cons value values ih =>
      rw [lowerValues]
      exact .behind (.lift _) fun _ => .behind (.bindValue _) fun _ => ih.then_pure _

mutual

theorem looksUp_lower :
    ∀ condition : Condition, LooksUp catalog (condition.lower catalog) condition.fields
  | .eq field _ => by
      rw [lower, fields]
      exact (LooksUp.column catalog field).bind fun _ =>
        .behind (.lift _) fun _ => (LooksUp.bindValue _).then_pure _
  | .oneOf field [] => by
      rw [lower, fields]
      exact (LooksUp.column catalog field).bind fun _ => .pure _
  | .oneOf field (first :: others) => by
      rw [lower, fields]
      exact (LooksUp.column catalog field).bind fun _ =>
        (looksUp_lowerValues field (first :: others)).then_pure _
  | .like field _ => by
      rw [lower, fields]
      exact (LooksUp.column catalog field).bind fun _ => (LooksUp.bindValue _).then_pure _
  | .between field _ _ => by
      rw [lower, fields]
      exact (LooksUp.column catalog field).bind fun _ =>
        .behind (.lift _) fun _ => .behind (.lift _) fun _ =>
          .behind (.bindValue _) fun _ => (LooksUp.bindValue _).then_pure _
  | .fullText field _ => by
      rw [lower, fields]
      exact (LooksUp.column catalog field).bind fun _ => (LooksUp.bindValue _).then_pure _
  | .all parts => by
      rw [lower, fields]
      exact (looksUp_lowerAll parts).then_pure _
  | .any parts => by
      rw [lower, fields]
      exact (looksUp_lowerAll parts).then_pure _
  | .not part => by
      rw [lower, fields]
      exact (looksUp_lower part).then_pure _

theorem looksUp_lowerAll :
    ∀ parts : List Condition, LooksUp catalog (lowerAll catalog parts) (fieldsOf parts)
  | [] => .pure _
  | part :: parts => by
      rw [lowerAll, fieldsOf]
      exact (looksUp_lower part).bind fun _ => (looksUp_lowerAll parts).then_pure _

end

end Condition

/-! ## The other steps of a selection -/

namespace Catalog

variable {catalog : Catalog}

theorem looksUp_lowerCondition (condition : Option Condition) :
    LooksUp catalog (catalog.lowerCondition condition) (Condition.clauseFields condition) := by
  cases condition with
  | none => exact .pure _
  | some condition => exact condition.looksUp_lower.then_pure _

theorem looksUp_lowerFields (chosen fields : List String) :
    LooksUp catalog (catalog.lowerFields chosen fields) fields := by
  induction fields generalizing chosen with
  | nil => exact .pure _
  | cons field fields ih =>
      rw [lowerFields]
      exact (LooksUp.column catalog field).bind fun _ => ih _

theorem looksUp_lowerTerms (keys : List SortKey) :
    LooksUp catalog (catalog.lowerTerms keys) (keys.map SortKey.field) := by
  induction keys with
  | nil => exact .pure _
  | cons key keys ih =>
      rw [lowerTerms, List.map_cons]
      exact (LooksUp.column catalog key.field).bind fun _ => ih.then_pure _

theorem looksUp_lowerSorting (keys : List SortKey) :
    LooksUp catalog (catalog.lowerSorting keys) (keys.map SortKey.field) := by
  cases keys with
  | nil => exact .pure _
  | cons key keys => exact looksUp_lowerTerms (key :: keys)

theorem looksUp_lowerCursor (cursor : Cursor) :
    LooksUp catalog (catalog.lowerCursor cursor) [cursor.sortKey.field] := by
  rw [lowerCursor]
  exact (LooksUp.column catalog cursor.sortKey.field).bind fun _ =>
    .behind (.lift _) fun _ => .behind (.lift _) fun _ =>
      .behind (.bindValue _) fun _ => (LooksUp.bindValue _).then_pure _

/-! ## Statements -/

/-- The fields that decide the order of the rows: that of the cursor, or the sort keys. -/
def orderFields (selection : Selection) : List String :=
  match selection.cursor with
  | some cursor => [cursor.sortKey.field]
  | none => selection.sorting.map SortKey.field

variable {selection : Selection} {statement : Statement}

/-- A statement is lowered in three steps that look up fields; the last one decides the order. -/
theorem steps_of_statement (h : catalog.statement selection = .ok statement) :
    ∃ predicate filtered projection between,
      (catalog.lowerCondition selection.condition).Yields .empty predicate filtered ∧
      (catalog.lowerFields [] selection.fields).Yields filtered projection between ∧
      statement.fallbacks = between.fallbacks ++ catalog.fallbacksOf (orderFields selection) := by
  obtain ⟨after, h⟩ := statement_eq_ok.mp h
  rw [orderFields]
  cases hcursor : selection.cursor with
  | none =>
      simp only [lowerSelection, lowerWindow, hcursor, Lowering.yields_bind, Lowering.yields_get,
        Lowering.yields_pure] at h
      obtain ⟨predicate, filtered, hfilter, _, _, ⟨rfl, rfl⟩, projection, between, hfields, _, _,
        ⟨rfl, rfl⟩, h⟩ := h
      simp only [Lowering.yields_bind, Lowering.yields_get, Lowering.yields_pure] at h
      obtain ⟨terms, ordered, hsorting, _, _, ⟨rfl, rfl⟩, rfl, rfl⟩ := h
      exact ⟨predicate, filtered, projection, between, hfilter, hfields,
        (looksUp_lowerSorting _).fallbacks hsorting⟩
  | some cursor =>
      simp only [lowerSelection, lowerWindow, hcursor, Lowering.yields_bind, Lowering.yields_get,
        Lowering.yields_pure] at h
      obtain ⟨predicate, filtered, hfilter, _, _, ⟨rfl, rfl⟩, projection, between, hfields, _, _,
        ⟨keyset, bounded, hkeyset, rfl, rfl⟩, h⟩ := h
      simp only [Lowering.yields_bind, Lowering.yields_get, Lowering.yields_pure] at h
      obtain ⟨_, _, ⟨rfl, rfl⟩, _, _, ⟨rfl, rfl⟩, rfl, rfl⟩ := h
      exact ⟨predicate, filtered, projection, between, hfilter, hfields,
        (looksUp_lowerCursor _).fallbacks hkeyset⟩

/--
The fallbacks of a statement are those of the tests of its condition, then of the
fields asked for, then of the cursor or of the sort keys, in the order in which
they are named and as often as they are named.  A registered field leaves none.
-/
theorem fallbacks_of_statement (h : catalog.statement selection = .ok statement) :
    statement.fallbacks =
        catalog.fallbacksOf (Condition.clauseFields selection.condition) ++
          catalog.fallbacksOf selection.fields ++
          (match selection.cursor with
          | some cursor => catalog.fallbacksOf [cursor.sortKey.field]
          | none => catalog.fallbacksOf (selection.sorting.map SortKey.field)) ∧
      ∀ fallback ∈ statement.fallbacks,
        catalog.column? fallback.field = none ∧ fallback.column = catalog.fallback.name := by
  obtain ⟨predicate, filtered, projection, between, hfilter, hfields, ordered⟩ :=
    steps_of_statement h
  have tested := (looksUp_lowerCondition _).fallbacks hfilter
  have asked := (looksUp_lowerFields _ _).fallbacks hfields
  rw [asked, tested, Bindings.empty, List.nil_append] at ordered
  constructor
  · rw [ordered, orderFields]
    cases selection.cursor <;> rfl
  · intro fallback hfallback
    rw [ordered, ← fallbacksOf_append, ← fallbacksOf_append] at hfallback
    exact unregistered_of_mem_fallbacksOf hfallback

/-- Fields without a column in every part: a test of an empty list, one field asked for twice. -/
def strayDraft : Draft :=
  Draft.empty.require (.all [.eq "stock" (.int 3), .oneOf "shelf" [], .not (.like "brand" "a%")])
    |>.select ["stock", "brand", "stock"] |>.orderBy "brand" |>.orderBy "-weight"

theorem fallbacks_of_statement_of_strayDraft :
    let catalog := (ofColumns ⟨"id", .text⟩ ⟨"name", .text⟩).register "brand" ⟨"brand", .text⟩
    let stray := fun field : String => (⟨field, "name"⟩ : Fallback)
    (∃ statement, catalog.statement strayDraft.build = .ok statement ∧
      statement.fallbacks = ["stock", "shelf", "stock", "stock", "weight"].map stray) ∧
    ∃ statement, catalog.statement
        (strayDraft.continueFrom ⟨"-color", .text "red", "r", .next⟩).build = .ok statement ∧
      statement.fallbacks = ["stock", "shelf", "stock", "stock", "color"].map stray := by
  intro catalog stray
  have numbered : catalog.statement strayDraft.build = .ok _ := rfl
  have continued : catalog.statement
      (strayDraft.continueFrom ⟨"-color", .text "red", "r", .next⟩).build = .ok _ := rfl
  exact ⟨⟨_, numbered, (fallbacks_of_statement numbered).1⟩,
    _, continued, (fallbacks_of_statement continued).1⟩

end Catalog

end Stockroom
