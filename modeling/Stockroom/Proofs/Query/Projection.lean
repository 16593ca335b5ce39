import Stockroom.Proofs.Query.Translation

/-!
# Projections

The columns that a statement asks for are those of the fields of its selection,
each once and where it first occurs.  Finding them binds nothing, so the
parameters and the texts of a statement do not depend on the fields.
-/

namespace Stockroom

/-! ## First occurrences -/

/-- The firsts are the texts, each once and in the order in which they first occur. -/
structure FirstOccurrences (texts firsts : List String) : Prop where
  nodup : firsts.Nodup
  mem_iff : ∀ text, text ∈ firsts ↔ text ∈ texts
  ordered : firsts.Pairwise fun a b => texts.idxOf a < texts.idxOf b

namespace FirstOccurrences

theorem nil : FirstOccurrences [] [] := ⟨.nil, by simp, .nil⟩

variable {texts firsts : List String}

/-- Texts behind the others do not move the places where those first occur. -/
theorem ordered_append (h : FirstOccurrences texts firsts) (further : List String) :
    firsts.Pairwise fun a b => (texts ++ further).idxOf a < (texts ++ further).idxOf b := by
  refine h.ordered.imp_of_mem fun {a b} ha hb earlier => ?_
  rwa [List.idxOf_append_of_mem ((h.mem_iff a).mp ha),
    List.idxOf_append_of_mem ((h.mem_iff b).mp hb)]

/-- A further text is one more of the firsts unless it is among them. -/
theorem step (h : FirstOccurrences texts firsts) (text : String) :
    FirstOccurrences (texts ++ [text])
      (if firsts.contains text then firsts else firsts ++ [text]) := by
  by_cases known : text ∈ firsts
  · rw [if_pos (List.contains_iff_mem.mpr known)]
    refine ⟨h.nodup, fun other => ?_, h.ordered_append [text]⟩
    have seen : text ∈ texts := (h.mem_iff text).mp known
    rw [h.mem_iff, List.mem_append, List.mem_singleton]
    exact ⟨.inl, fun found => found.elim id fun same => same ▸ seen⟩
  · have unseen : text ∉ texts := fun seen => known ((h.mem_iff text).mpr seen)
    rw [if_neg (by simpa using known)]
    refine ⟨?_, fun other => ?_, ?_⟩
    · refine List.nodup_append.mpr ⟨h.nodup, List.pairwise_singleton _ _, ?_⟩
      rintro a ha b hb rfl
      exact known (List.mem_singleton.mp hb ▸ ha)
    · rw [List.mem_append, List.mem_append, h.mem_iff]
    · refine List.pairwise_append.mpr ⟨h.ordered_append [text], List.pairwise_singleton _ _, ?_⟩
      intro a ha b hb
      obtain rfl := List.mem_singleton.mp hb
      have seen : a ∈ texts := (h.mem_iff a).mp ha
      rw [List.idxOf_append_of_mem seen, List.idxOf_append_of_notMem unseen]
      exact Nat.lt_add_right _ (List.idxOf_lt_length_of_mem seen)

end FirstOccurrences

/-- The same selection, asking for other fields. -/
def Selection.withFields (selection : Selection) (fields : List String) : Selection :=
  { selection with fields }

namespace Catalog

/-- The columns of fields, in the order in which the fields are named. -/
def columnNames (catalog : Catalog) (fields : List String) : List String :=
  fields.map fun field => (catalog.resolve field).name

theorem firstOccurrences_projected {catalog : Catalog} {seen chosen : List String}
    (h : FirstOccurrences seen chosen) (fields : List String) :
    FirstOccurrences (seen ++ catalog.columnNames fields) (catalog.projected chosen fields) := by
  -- The induction is on the fields still to come; what is chosen stands for those seen before.
  induction fields generalizing seen chosen with
  | nil => simpa [columnNames, projected] using h
  | cons field fields ih =>
      have first := ih (h.step (catalog.resolve field).name)
      rwa [List.append_assoc] at first

/-! ## Selections that differ in their fields -/

variable {catalog : Catalog} {selection : Selection} {statement other : Statement}

theorem projection_eq_of_statement (h : catalog.statement selection = .ok statement) :
    statement.projection = catalog.projected [] selection.fields := by
  cases hcursor : selection.cursor with
  | none => exact (pages_of_statement hcursor h).projection
  | some cursor => exact (pagesBeyond_of_statement hcursor h).projection

theorem Filters.unique {condition : Option Condition} (h : catalog.Filters condition statement)
    (hother : catalog.Filters condition other) :
    other.predicate = statement.predicate ∧ other.filterParams = statement.filterParams := by
  obtain ⟨after, lowered, params⟩ := h.lowered
  obtain ⟨after', lowered', params'⟩ := hother.lowered
  obtain ⟨predicate, rfl⟩ := lowered.unique lowered'
  exact ⟨predicate.symm, params'.trans params.symm⟩

theorem Continues.unique {cursor : Cursor} {value id value' id' : Value}
    (h : catalog.Continues cursor value id) (hother : catalog.Continues cursor value' id') :
    value' = value ∧ id' = id :=
  ⟨Except.ok.inj (hother.value.symm.trans h.value), Except.ok.inj (hother.id.symm.trans h.id)⟩

/-- The queries of both statements are the same; only what they ask for may differ. -/
structure SameQueries (statement other : Statement) : Prop where
  predicate : other.predicate = statement.predicate
  filterParams : other.filterParams = statement.filterParams
  params : other.params = statement.params
  terms : other.terms = statement.terms
  window : other.window = statement.window

theorem sameQueries_of_withFields {fields : List String}
    (h : catalog.statement selection = .ok statement)
    (hother : catalog.statement (selection.withFields fields) = .ok other) :
    SameQueries statement other := by
  cases hcursor : selection.cursor with
  | none =>
      have pages := pages_of_statement hcursor h
      have hcursor' : (selection.withFields fields).cursor = none := hcursor
      have pages' := pages_of_statement hcursor' hother
      obtain ⟨predicate, filterParams⟩ := pages.toFilters.unique pages'.toFilters
      refine ⟨predicate, filterParams, ?_, pages'.terms.trans pages.terms.symm,
        pages'.window.trans pages.window.symm⟩
      rw [pages'.params, filterParams, pages.params]
  | some cursor =>
      have pages := pagesBeyond_of_statement hcursor h
      have hcursor' : (selection.withFields fields).cursor = some cursor := hcursor
      have pages' := pagesBeyond_of_statement hcursor' hother
      obtain ⟨predicate, filterParams⟩ := pages.toFilters.unique pages'.toFilters
      obtain ⟨value, id, reads, params⟩ := pages.params
      obtain ⟨value', id', reads', params'⟩ := pages'.params
      obtain ⟨rfl, rfl⟩ := reads.unique reads'
      refine ⟨predicate, filterParams, ?_, ?_, ?_⟩
      · rw [params', filterParams, params]
      · rw [pages'.terms, filterParams, pages.terms]
      · -- The boundary is numbered behind the parameters of the filter, which are the same.
        rw [pages'.window, filterParams, pages.window]
        rfl

theorem bindable_of_binds {inputs : List Condition.Input} {params : List Value}
    (h : List.Forall₂ catalog.Binds inputs params) : catalog.Bindable inputs := by
  induction h with
  | nil => exact List.forall_mem_nil _
  | cons first _ ih => exact List.forall_mem_cons.mpr ⟨⟨_, first⟩, ih⟩

/-- A selection that translates also translates with other fields. -/
theorem exists_statement_withFields (h : catalog.statement selection = .ok statement)
    (fields : List String) :
    ∃ other, catalog.statement (selection.withFields fields) = .ok other := by
  cases hcursor : selection.cursor with
  | none =>
      have filters := filters_of_statement h
      exact exists_statement_of_bindable hcursor (bindable_of_binds filters.lowers.2)
  | some cursor =>
      have pages := pagesBeyond_of_statement hcursor h
      obtain ⟨value, id, reads, -⟩ := pages.params
      have hcursor' : (selection.withFields fields).cursor = some cursor := hcursor
      exact exists_statement_of_continues pages.toFilters hcursor' reads

theorem SameQueries.texts_eq (h : SameQueries statement other) :
    other.predicateText = statement.predicateText ∧
      other.keysetText = statement.keysetText ∧
      (∀ table columns extra,
        other.rowsText table columns extra = statement.rowsText table columns extra) ∧
      ∀ table, other.countText table = statement.countText table := by
  obtain ⟨predicate, -, -, terms, window⟩ := h
  cases statement
  cases other
  dsimp only at predicate terms window
  subst predicate terms window
  exact ⟨rfl, rfl, fun _ _ _ => rfl, fun _ => rfl⟩

/--
A statement asks for the columns of the fields of its selection, each once and in
the order of their first occurrence; a field without a column of its own asks for
the fallback column.  Looking them up leaves the parameters as they are, and the
same selection with any other fields has the same parameters and texts.
-/
theorem projection_of_statement (h : catalog.statement selection = .ok statement) :
    statement.projection.Nodup ∧
      (∀ name, name ∈ statement.projection ↔
        ∃ field ∈ selection.fields, (catalog.resolve field).name = name) ∧
      (statement.projection.Pairwise fun a b =>
        (catalog.columnNames selection.fields).idxOf a <
          (catalog.columnNames selection.fields).idxOf b) ∧
      (∀ before, ∃ after,
        (catalog.lowerFields [] selection.fields).Yields before statement.projection after ∧
          after.params = before.params) ∧
      ∀ fields, ∃ other, catalog.statement (selection.withFields fields) = .ok other ∧
        other.params = statement.params ∧
        other.filterParams = statement.filterParams ∧
        other.predicateText = statement.predicateText ∧
        other.keysetText = statement.keysetText ∧
        (∀ table columns extra,
          other.rowsText table columns extra = statement.rowsText table columns extra) ∧
        ∀ table, other.countText table = statement.countText table := by
  have firsts : FirstOccurrences (catalog.columnNames selection.fields) statement.projection := by
    rw [projection_eq_of_statement h]
    exact firstOccurrences_projected .nil selection.fields
  refine ⟨firsts.nodup, fun name => ?_, firsts.ordered, fun before => ?_, fun fields => ?_⟩
  · rw [firsts.mem_iff, columnNames, List.mem_map]
  · rw [projection_eq_of_statement h]
    exact catalog.exists_yields_lowerFields selection.fields [] before
  · obtain ⟨other, hother⟩ := exists_statement_withFields h fields
    have same := sameQueries_of_withFields h hother
    exact ⟨other, hother, same.params, same.filterParams, same.texts_eq⟩

/-- Two names of one column and two fields without a column, beyond a row of a third one. -/
def shelfList : Selection :=
  Draft.empty.require (.eq "brand" (.text "acme"))
    |>.select ["brand", "stock", "maker", "name", "weight", "maker"]
    |>.continueFrom ⟨"-maker", .text "b", "r", .next⟩ |>.build

theorem projection_of_statement_of_shelfList :
    let catalog := ofColumns ⟨"id", .text⟩ ⟨"name", .text⟩
      |>.register "brand" ⟨"brand", .text⟩ |>.register "maker" ⟨"brand", .text⟩
    ∃ statement other, catalog.statement shelfList = .ok statement ∧
      statement.projection = ["brand", "name"] ∧ statement.projection.Nodup ∧
      catalog.statement (shelfList.withFields ["stock"]) = .ok other ∧
      other.projection = ["name"] ∧ other.params = statement.params := by
  intro catalog
  have chosen : catalog.statement shelfList = .ok _ := rfl
  obtain ⟨nodup, -, -, -, others⟩ := projection_of_statement chosen
  obtain ⟨other, hother, params, -⟩ := others ["stock"]
  refine ⟨_, other, chosen, rfl, nodup, hother, ?_, params⟩
  rw [projection_eq_of_statement hother]
  rfl

end Catalog

end Stockroom
