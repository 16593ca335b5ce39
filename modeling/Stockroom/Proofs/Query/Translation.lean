import Stockroom.Proofs.Query.Meaning
import Stockroom.Proofs.Sql.Query

/-!
# Statements of selections

What the statement of a selection consists of: the predicate of its condition,
the parameters bound for it, and then either the sort keys and the rows to skip
or the boundary row of its cursor.  The texts of the statement read accordingly.
-/

namespace Stockroom

open Sql (Expr Reads)

/-! ## Order and fields -/

namespace Catalog

def sortTerms (catalog : Catalog) (keys : List SortKey) : List Sql.OrderTerm :=
  if keys.isEmpty then [⟨catalog.fallback.name, .descending⟩]
  else keys.map fun key => ⟨(catalog.resolve key.field).name, key.order⟩

section Terms

variable {catalog : Catalog} {p : String → Prop}

theorem sortTerms_ne_nil (keys : List SortKey) : catalog.sortTerms keys ≠ [] := by
  unfold sortTerms
  split
  · simp
  next hkeys => simpa using hkeys

theorem forall_sortTerms (fallback : p catalog.fallback.name)
    (resolve : ∀ field, p (catalog.resolve field).name) (keys : List SortKey) :
    ∀ term ∈ catalog.sortTerms keys, p term.column := by
  unfold sortTerms
  split
  · simpa using fallback
  · intro term hterm
    obtain ⟨key, -, rfl⟩ := List.mem_map.mp hterm
    exact resolve key.field

theorem keysetTerms_ne_nil (column id : String) (order : Order) :
    keysetTerms column id order ≠ [] := by
  unfold keysetTerms
  split <;> simp

theorem forall_keysetTerms {column id : String} (hcolumn : p column) (hid : p id)
    (order : Order) : ∀ term ∈ keysetTerms column id order, p term.column := by
  unfold keysetTerms
  split <;> simp [hcolumn, hid]

end Terms

theorem exists_yields_lowerTerms (catalog : Catalog) (keys : List SortKey) (before : Bindings) :
    ∃ after, (catalog.lowerTerms keys).Yields before
      (keys.map fun key => ⟨(catalog.resolve key.field).name, key.order⟩) after ∧
        after.params = before.params := by
  induction keys generalizing before with
  | nil => exact ⟨before, Lowering.yields_pure.mpr ⟨rfl, rfl⟩, rfl⟩
  | cons key keys ih =>
      obtain ⟨between, hcolumn⟩ := Lowering.exists_yields_column catalog key.field before
      obtain ⟨after, hterms, hparams⟩ := ih between
      refine ⟨after, ?_, hparams.trans (Lowering.yields_column hcolumn).2⟩
      simp only [lowerTerms, Lowering.yields_bind, Lowering.yields_pure]
      exact ⟨_, _, hcolumn, _, _, hterms, rfl, rfl⟩

theorem exists_yields_lowerSorting (catalog : Catalog) (keys : List SortKey)
    (before : Bindings) :
    ∃ after, (catalog.lowerSorting keys).Yields before (catalog.sortTerms keys) after ∧
      after.params = before.params := by
  unfold lowerSorting sortTerms
  split
  · exact ⟨before, Lowering.yields_pure.mpr ⟨rfl, rfl⟩, rfl⟩
  · exact catalog.exists_yields_lowerTerms keys before

/-- The columns of the fields behind those chosen before, each at its first occurrence. -/
def projected (catalog : Catalog) (chosen : List String) : List String → List String
  | [] => chosen
  | field :: fields =>
      projected catalog
        (if chosen.contains (catalog.resolve field).name then chosen
          else chosen ++ [(catalog.resolve field).name]) fields

theorem exists_yields_lowerFields (catalog : Catalog) (fields chosen : List String)
    (before : Bindings) :
    ∃ after, (catalog.lowerFields chosen fields).Yields before (catalog.projected chosen fields)
      after ∧ after.params = before.params := by
  induction fields generalizing chosen before with
  | nil => exact ⟨before, Lowering.yields_pure.mpr ⟨rfl, rfl⟩, rfl⟩
  | cons field fields ih =>
      obtain ⟨between, hcolumn⟩ := Lowering.exists_yields_column catalog field before
      obtain ⟨after, hfields, hparams⟩ := ih _ between
      refine ⟨after, ?_, hparams.trans (Lowering.yields_column hcolumn).2⟩
      simp only [lowerFields, Lowering.yields_bind]
      exact ⟨_, _, hcolumn, hfields⟩

theorem yields_lowerFields {catalog : Catalog} {fields chosen projection : List String}
    {before after : Bindings}
    (h : (catalog.lowerFields chosen fields).Yields before projection after) :
    projection = catalog.projected chosen fields ∧ after.params = before.params := by
  obtain ⟨_, hfields, hparams⟩ := catalog.exists_yields_lowerFields fields chosen before
  obtain ⟨rfl, rfl⟩ := hfields.unique h
  exact ⟨rfl, hparams⟩

theorem yields_lowerSorting {catalog : Catalog} {keys : List SortKey}
    {terms : List Sql.OrderTerm} {before after : Bindings}
    (h : (catalog.lowerSorting keys).Yields before terms after) :
    terms = catalog.sortTerms keys ∧ after.params = before.params := by
  obtain ⟨_, hsorting, hparams⟩ := catalog.exists_yields_lowerSorting keys before
  obtain ⟨rfl, rfl⟩ := hsorting.unique h
  exact ⟨rfl, hparams⟩

/-! ## Keysets -/

/-- The order in which the rows beyond the boundary row of a cursor come. -/
def travelOrder (cursor : Cursor) : Order :=
  if cursor.travel = .next then cursor.sortKey.order else cursor.sortKey.order.reverse

/-- The keyset of a cursor whose values are bound behind `count` others. -/
def keyset (catalog : Catalog) (cursor : Cursor) (count : Nat) : Keyset where
  boundary := ⟨(catalog.resolve cursor.sortKey.field).name, catalog.id.name,
    travelOrder cursor = .ascending, count + 1, count + 2⟩
  terms := keysetTerms (catalog.resolve cursor.sortKey.field).name catalog.id.name
    (travelOrder cursor)
  reversed := cursor.travel = .prev

/-- The values of the boundary row are of the kinds of their columns. -/
structure Continues (catalog : Catalog) (cursor : Cursor) (value id : Value) : Prop where
  value : cursor.readValue (catalog.resolve cursor.sortKey.field).kind = .ok value
  id : cursor.readId catalog.id.kind = .ok id

theorem mapError_eq_ok {ε ε' α : Type} {result : Except ε α} {f : ε → ε'} {a : α} :
    result.mapError f = .ok a ↔ result = .ok a := by
  cases result <;> simp [Except.mapError]

theorem yields_lowerCursor {catalog : Catalog} {cursor : Cursor} {before after : Bindings}
    {keyset : Keyset} (h : (catalog.lowerCursor cursor).Yields before keyset after) :
    ∃ value id, catalog.Continues cursor value id ∧
      keyset = catalog.keyset cursor before.params.length ∧
      after.params = before.params ++ [value, id] := by
  simp only [lowerCursor, Lowering.yields_bind, Lowering.yields_lift, Lowering.yields_bindValue,
    Lowering.yields_pure, mapError_eq_ok] at h
  obtain ⟨column, between, hcolumn, value, _, ⟨hvalue, rfl⟩, id, _, ⟨hid, rfl⟩, _, _,
    ⟨rfl, rfl⟩, _, _, ⟨rfl, rfl⟩, rfl, rfl⟩ := h
  obtain ⟨rfl, hparams⟩ := Lowering.yields_column hcolumn
  refine ⟨value, id, ⟨hvalue, hid⟩, ?_, ?_⟩
  · simp [Catalog.keyset, travelOrder, Bindings.push, hparams]
    rfl
  · simp [Bindings.push, hparams]

theorem exists_yields_lowerCursor {catalog : Catalog} {cursor : Cursor} {value id : Value}
    (h : catalog.Continues cursor value id) (before : Bindings) :
    ∃ after, (catalog.lowerCursor cursor).Yields before
      (catalog.keyset cursor before.params.length) after := by
  obtain ⟨between, hcolumn⟩ := Lowering.exists_yields_column catalog cursor.sortKey.field before
  have hparams := (Lowering.yields_column hcolumn).2
  refine ⟨(between.push value).push id, ?_⟩
  simp only [lowerCursor, Lowering.yields_bind, Lowering.yields_lift, Lowering.yields_bindValue,
    Lowering.yields_pure, mapError_eq_ok]
  refine ⟨_, _, hcolumn, value, _, ⟨h.value, rfl⟩, id, _, ⟨h.id, rfl⟩, _, _, ⟨rfl, rfl⟩, _, _,
    ⟨rfl, rfl⟩, ?_, rfl⟩
  simp [Catalog.keyset, travelOrder, Bindings.push, hparams]
  rfl

/-- A cursor with a value that cannot be read is refused, and nothing is bound for it. -/
theorem exists_fails_lowerCursor {catalog : Catalog} {cursor : Cursor}
    (h : ¬∃ value id, catalog.Continues cursor value id) (before : Bindings) :
    ∃ cause after, (catalog.lowerCursor cursor).Fails before (.invalidCursor cause) after ∧
      after.params = before.params := by
  obtain ⟨between, hcolumn⟩ := Lowering.exists_yields_column catalog cursor.sortKey.field before
  have hparams := (Lowering.yields_column hcolumn).2
  cases hvalue : cursor.readValue (catalog.resolve cursor.sortKey.field).kind with
  | error cause =>
      have refused := Lowering.fails_mapError hvalue QueryFault.invalidCursor between
      exact ⟨cause, between, hcolumn.bind_fails (refused.bind _), hparams⟩
  | ok value =>
      have read := Lowering.yields_mapError hvalue QueryFault.invalidCursor between
      cases hid : cursor.readId catalog.id.kind with
      | error cause =>
          have refused := Lowering.fails_mapError hid QueryFault.invalidCursor between
          exact ⟨cause, between, hcolumn.bind_fails (read.bind_fails (refused.bind _)), hparams⟩
      | ok id => exact absurd ⟨value, id, hvalue, hid⟩ h

end Catalog

/-! ## The parts of a statement -/

def Condition.clauseInputs : Option Condition → List Condition.Input
  | none => []
  | some condition => condition.inputs

theorem Catalog.statement_eq_ok {catalog : Catalog} {selection : Selection}
    {statement : Statement} :
    catalog.statement selection = .ok statement ↔
      ∃ after, (catalog.lowerSelection selection).Yields .empty statement after := by
  constructor
  · intro h
    exact ⟨_, Prod.ext h rfl⟩
  · rintro ⟨after, h⟩
    exact congrArg Prod.fst h

theorem Catalog.statement_eq_error {catalog : Catalog} {selection : Selection}
    {fault : QueryFault} :
    catalog.statement selection = .error fault ↔
      ∃ after, (catalog.lowerSelection selection).Fails .empty fault after := by
  constructor
  · intro h
    exact ⟨_, Prod.ext h rfl⟩
  · rintro ⟨after, h⟩
    exact congrArg Prod.fst h

/-- The predicate of a statement and the parameters bound for it. -/
structure Catalog.Filters (catalog : Catalog) (condition : Option Condition)
    (statement : Statement) : Prop where
  lowered : ∃ after, (catalog.lowerCondition condition).Yields .empty statement.predicate after ∧
    statement.filterParams = after.params

structure Catalog.Pages (catalog : Catalog) (selection : Selection) (statement : Statement) :
    Prop extends catalog.Filters selection.condition statement where
  params : statement.params = statement.filterParams
  terms : statement.terms = catalog.sortTerms selection.sorting
  window : statement.window = ⟨selection.size, some selection.offset, none⟩
  projection : statement.projection = catalog.projected [] selection.fields

structure Catalog.PagesBeyond (catalog : Catalog) (selection : Selection) (cursor : Cursor)
    (statement : Statement) : Prop extends catalog.Filters selection.condition statement where
  params : ∃ value id, catalog.Continues cursor value id ∧
    statement.params = statement.filterParams ++ [value, id]
  terms : statement.terms = (catalog.keyset cursor statement.filterParams.length).terms
  window : statement.window =
    ⟨selection.size, none, some (catalog.keyset cursor statement.filterParams.length)⟩
  projection : statement.projection = catalog.projected [] selection.fields

theorem Catalog.pages_of_statement {catalog : Catalog} {selection : Selection}
    {statement : Statement} (hcursor : selection.cursor = none)
    (h : catalog.statement selection = .ok statement) : catalog.Pages selection statement := by
  obtain ⟨after, h⟩ := statement_eq_ok.mp h
  simp only [lowerSelection, lowerWindow, hcursor, Lowering.yields_bind, Lowering.yields_get,
    Lowering.yields_pure] at h
  obtain ⟨predicate, filtered, hfilter, _, _, ⟨rfl, rfl⟩, projection, between, hfields, _, _,
    ⟨rfl, rfl⟩, h⟩ := h
  simp only [Lowering.yields_bind, Lowering.yields_get, Lowering.yields_pure] at h
  obtain ⟨terms, ordered, hsorting, _, _, ⟨rfl, rfl⟩, rfl, rfl⟩ := h
  obtain ⟨rfl, hordered⟩ := yields_lowerSorting hsorting
  obtain ⟨rfl, hbetween⟩ := yields_lowerFields hfields
  have hparams : ordered.params = filtered.params := hordered.trans hbetween
  have hfilterParams : ordered.params.take filtered.params.length = filtered.params := by
    rw [hparams, List.take_length]
  exact ⟨⟨filtered, hfilter, hfilterParams⟩, hparams.trans hfilterParams.symm, rfl, rfl, rfl⟩

theorem Catalog.pagesBeyond_of_statement {catalog : Catalog} {selection : Selection}
    {statement : Statement} {cursor : Cursor} (hcursor : selection.cursor = some cursor)
    (h : catalog.statement selection = .ok statement) :
    catalog.PagesBeyond selection cursor statement := by
  obtain ⟨after, h⟩ := statement_eq_ok.mp h
  simp only [lowerSelection, lowerWindow, hcursor, Lowering.yields_bind, Lowering.yields_get,
    Lowering.yields_pure] at h
  obtain ⟨predicate, filtered, hfilter, _, _, ⟨rfl, rfl⟩, projection, between, hfields, _, _,
    ⟨keyset, bounded, hkeyset, rfl, rfl⟩, h⟩ := h
  simp only [Lowering.yields_bind, Lowering.yields_get, Lowering.yields_pure] at h
  obtain ⟨_, _, ⟨rfl, rfl⟩, _, _, ⟨rfl, rfl⟩, rfl, rfl⟩ := h
  obtain ⟨value, id, continues, rfl, hbounded⟩ := yields_lowerCursor hkeyset
  obtain ⟨rfl, hbetween⟩ := yields_lowerFields hfields
  have hfilterParams : bounded.params.take filtered.params.length = filtered.params := by
    rw [hbounded, hbetween, List.take_left]
  have hlength : between.params.length =
      (bounded.params.take filtered.params.length).length := by
    rw [hfilterParams, hbetween]
  refine ⟨⟨filtered, hfilter, hfilterParams⟩, ⟨value, id, continues, ?_⟩, ?_, ?_, rfl⟩
  · show bounded.params = bounded.params.take filtered.params.length ++ [value, id]
    rw [hfilterParams, hbounded, hbetween]
  · rw [hlength]
    rfl
  · rw [hlength]
    rfl

theorem Catalog.filters_of_statement {catalog : Catalog} {selection : Selection}
    {statement : Statement} (h : catalog.statement selection = .ok statement) :
    catalog.Filters selection.condition statement := by
  cases hcursor : selection.cursor with
  | none => exact (pages_of_statement hcursor h).toFilters
  | some cursor => exact (pagesBeyond_of_statement hcursor h).toFilters

theorem Catalog.Filters.lowers {catalog : Catalog} {condition : Option Condition}
    {statement : Statement} (h : catalog.Filters condition statement) :
    statement.predicate = condition.map (Condition.predicate catalog 0) ∧
      List.Forall₂ catalog.Binds (Condition.clauseInputs condition) statement.filterParams := by
  obtain ⟨filtered, hlower, hparams⟩ := h.lowered
  rw [hparams]
  cases condition with
  | none =>
      obtain ⟨hpredicate, rfl⟩ := Lowering.yields_pure.mp hlower
      exact ⟨hpredicate.symm, .nil⟩
  | some condition =>
      simp only [lowerCondition, Lowering.yields_bind, Lowering.yields_pure] at hlower
      obtain ⟨predicate, _, hcondition, hpredicate, rfl⟩ := hlower
      obtain ⟨rfl, params, bound, binds⟩ := Condition.yields_lower condition hcondition
      rw [Bindings.empty, List.nil_append] at bound
      rw [bound]
      exact ⟨hpredicate.symm, binds⟩

/-- A filter that translates translates with every cursor whose values can be read. -/
theorem Catalog.exists_statement_of_continues {catalog : Catalog} {selection : Selection}
    {statement : Statement} (h : catalog.Filters selection.condition statement)
    {cursor : Cursor} (hcursor : selection.cursor = some cursor) {value id : Value}
    (hcontinues : catalog.Continues cursor value id) :
    ∃ next, catalog.statement selection = .ok next := by
  obtain ⟨filtered, hfilter, -⟩ := h.lowered
  obtain ⟨between, hfields, -⟩ :=
    catalog.exists_yields_lowerFields selection.fields [] filtered
  obtain ⟨bounded, hkeyset⟩ := exists_yields_lowerCursor hcontinues between
  refine ⟨{
    predicate := statement.predicate
    filterCount := filtered.params.length
    params := bounded.params
    terms := (catalog.keyset cursor between.params.length).terms
    window := ⟨selection.size, none, some (catalog.keyset cursor between.params.length)⟩
    projection := catalog.projected [] selection.fields
    fallbacks := bounded.fallbacks }, statement_eq_ok.mpr ⟨bounded, ?_⟩⟩
  simp only [lowerSelection, lowerWindow, hcursor, Lowering.yields_bind, Lowering.yields_get,
    Lowering.yields_pure]
  refine ⟨_, _, hfilter, _, _, ⟨rfl, rfl⟩, _, _, hfields, _, _, ⟨_, _, hkeyset, rfl, rfl⟩, ?_⟩
  simp only [Lowering.yields_bind, Lowering.yields_get, Lowering.yields_pure]
  exact ⟨_, _, ⟨rfl, rfl⟩, _, _, ⟨rfl, rfl⟩, rfl, rfl⟩

/-! ## Selections that are refused -/

namespace Catalog

variable {catalog : Catalog} {selection : Selection} {cursor : Cursor}

theorem exists_yields_lowerCondition {condition : Option Condition}
    (h : catalog.Bindable (Condition.clauseInputs condition)) (before : Bindings) :
    ∃ predicate after, (catalog.lowerCondition condition).Yields before predicate after := by
  cases condition with
  | none => exact ⟨_, _, Lowering.yields_pure.mpr ⟨rfl, rfl⟩⟩
  | some condition =>
      obtain ⟨predicate, after, hcondition⟩ := condition.exists_yields_lower h before
      simp only [lowerCondition, Lowering.yields_bind, Lowering.yields_pure]
      exact ⟨_, _, _, _, hcondition, rfl, rfl⟩

theorem exists_statement_of_bindable (hcursor : selection.cursor = none)
    (h : catalog.Bindable (Condition.clauseInputs selection.condition)) :
    ∃ statement, catalog.statement selection = .ok statement := by
  obtain ⟨predicate, filtered, hfilter⟩ := exists_yields_lowerCondition h .empty
  obtain ⟨between, hfields, -⟩ :=
    catalog.exists_yields_lowerFields selection.fields [] filtered
  obtain ⟨after, hsorting, -⟩ := catalog.exists_yields_lowerSorting selection.sorting between
  refine ⟨{
    predicate
    filterCount := filtered.params.length
    params := after.params
    terms := catalog.sortTerms selection.sorting
    window := ⟨selection.size, some selection.offset, none⟩
    projection := catalog.projected [] selection.fields
    fallbacks := after.fallbacks }, statement_eq_ok.mpr ⟨after, ?_⟩⟩
  simp only [lowerSelection, lowerWindow, hcursor, Lowering.yields_bind, Lowering.yields_get,
    Lowering.yields_pure]
  refine ⟨_, _, hfilter, _, _, ⟨rfl, rfl⟩, _, _, hfields, _, _, ⟨rfl, rfl⟩, ?_⟩
  simp only [Lowering.yields_bind, Lowering.yields_get, Lowering.yields_pure]
  exact ⟨_, _, hsorting, _, _, ⟨rfl, rfl⟩, rfl, rfl⟩

/-- If nothing is wrong with the filter, the cursor is at fault. -/
theorem statement_eq_invalidCursor (hcursor : selection.cursor = some cursor)
    (h : catalog.Bindable (Condition.clauseInputs selection.condition))
    (hcontinues : ¬∃ value id, catalog.Continues cursor value id) :
    ∃ cause, catalog.statement selection = .error (.invalidCursor cause) := by
  obtain ⟨predicate, filtered, hfilter⟩ := exists_yields_lowerCondition h .empty
  obtain ⟨between, hfields, -⟩ :=
    catalog.exists_yields_lowerFields selection.fields [] filtered
  obtain ⟨cause, after, hkeyset, -⟩ := exists_fails_lowerCursor hcontinues between
  refine ⟨cause, statement_eq_error.mpr ⟨after, ?_⟩⟩
  have window : (catalog.lowerWindow selection).Fails between (.invalidCursor cause) after := by
    rw [lowerWindow, hcursor]
    exact hkeyset.bind _
  -- The steps before the window cannot fail.
  have count : Lowering.Yields get filtered filtered filtered :=
    Lowering.yields_get.mpr ⟨rfl, rfl⟩
  exact hfilter.bind_fails (count.bind_fails (hfields.bind_fails (window.bind _)))

end Catalog

/-! ## How the texts of a statement read -/

theorem rel_imp {α β : Type} {r s : α → β → Prop} {a : Option α} {b : Option β}
    (h : Option.Rel r a b) (hrs : ∀ {x y}, r x y → s x y) :
    Option.Rel s a b := by
  cases h with
  | none => exact .none
  | some hab => exact .some (hrs hab)

def Sql.clauseTruth (judge : Sql.Test Value → Truth) (params : List Value) :
    Option Expr → Truth
  | none => .holds
  | some expr => expr.truth judge params

def Condition.clauseTruth (catalog : Catalog) (judge : Sql.Test Value → Truth) :
    Option Condition → Truth
  | none => .holds
  | some condition => condition.truth catalog judge

def Sql.conjoined : Option Expr → Option Expr → Option Expr
  | some filter, some keyset => some (.conjunction filter keyset)
  | some filter, none => some filter
  | none, keyset => keyset

theorem Sql.clauseTruth_conjoined (judge : Sql.Test Value → Truth) (params : List Value)
    (filter keyset : Option Expr) :
    clauseTruth judge params (conjoined filter keyset) =
      (clauseTruth judge params filter).and (clauseTruth judge params keyset) := by
  cases filter with
  | none => cases hkeyset : clauseTruth judge params keyset <;> simp [conjoined, hkeyset] <;> rfl
  | some filter => cases keyset with
    | none => simp [conjoined, clauseTruth]
    | some keyset => rfl

namespace Statement

def filterExpr (statement : Statement) : Option Expr :=
  statement.predicate.map Sql.Predicate.expr

def keysetExpr (statement : Statement) : Option Expr :=
  statement.window.keyset.map fun keyset => keyset.boundary.expr

def whereExpr (statement : Statement) : Option Expr :=
  Sql.conjoined statement.filterExpr statement.keysetExpr

/-- The columns of a statement can stand in its texts. -/
structure Plain (statement : Statement) : Prop where
  predicate : ∀ predicate ∈ statement.predicate, predicate.Plain
  keyset : ∀ keyset ∈ statement.window.keyset,
    Sql.isPlain keyset.boundary.column = true ∧ Sql.isPlain keyset.boundary.id = true
  terms : statement.terms ≠ [] ∧ ∀ term ∈ statement.terms, Sql.isPlain term.column = true

theorem Plain.reads_filter {statement : Statement} (h : statement.Plain) :
    Option.Rel (Sql.ReadsAt .negation) statement.predicateText statement.filterExpr := by
  have plain := h.predicate
  unfold predicateText filterExpr
  cases hpredicate : statement.predicate with
  | none => exact .none
  | some predicate => exact .some (Sql.Predicate.readsAt_text (plain predicate hpredicate))

theorem Plain.reads_keyset {statement : Statement} (h : statement.Plain) :
    Option.Rel (Sql.ReadsAt .primary) statement.keysetText statement.keysetExpr := by
  have plain := h.keyset
  unfold keysetText keysetExpr
  cases hkeyset : statement.window.keyset with
  | none => exact .none
  | some keyset =>
      obtain ⟨hcolumn, hid⟩ := plain keyset hkeyset
      exact .some (Sql.readsAt_boundary hcolumn hid)

theorem Plain.reads_where {statement : Statement} (h : statement.Plain) :
    Option.Rel Reads statement.whereText statement.whereExpr := by
  have filter := h.reads_filter
  have keyset := h.reads_keyset
  rw [whereText, whereExpr]
  generalize statement.predicateText = text, statement.filterExpr = expr at filter
  generalize statement.keysetText = text', statement.keysetExpr = expr' at keyset
  cases filter with
  | none => cases keyset with
    | none => exact .none
    | some hkeyset => exact .some hkeyset.primary.negation.conjunction
  | some hfilter => cases keyset with
    | none => exact .some hfilter.negation.conjunction
    | some hkeyset => exact .some (hfilter.negation.and hkeyset.primary).conjunction

theorem rowsText_eq (statement : Statement) (table columns : String) (extra : UInt32) :
    statement.rowsText table columns extra =
      "SELECT " ++ columns ++ " FROM " ++ table ++ Sql.clauseText statement.whereText ++ " " ++
        Sql.orderText statement.terms ++ " " ++ statement.windowText extra := by
  unfold rowsText
  cases statement.whereText <;> rfl

theorem countText_eq (statement : Statement) (table : String) :
    statement.countText table =
      "SELECT COUNT(*) FROM " ++ table ++ Sql.clauseText statement.predicateText := by
  unfold countText
  cases statement.predicateText <;> rfl

theorem Plain.reads_count {statement : Statement} (h : statement.Plain) {table : String}
    (htable : Sql.isPlain table = true) :
    Sql.ReadsCount (statement.countText table) ⟨table, statement.filterExpr⟩ := by
  have filter : Option.Rel Reads statement.predicateText statement.filterExpr :=
    rel_imp h.reads_filter fun hfilter => hfilter.negation.conjunction
  rw [countText_eq]
  exact Sql.readsCount_text htable filter

theorem Plain.reads_rows {statement : Statement} (h : statement.Plain) {table : String}
    (htable : Sql.isPlain table = true) {columns : List String} (hcolumns : columns ≠ [])
    (hplain : ∀ column ∈ columns, Sql.isPlain column = true) (extra : UInt32) :
    Sql.ReadsSelect (statement.rowsText table (", ".intercalate columns) extra)
      ⟨columns, table, statement.whereExpr, statement.terms,
        min (statement.window.limit.toNat + extra.toNat) (UInt32.size - 1),
        statement.window.offset.map UInt64.toNat⟩ := by
  have limit : min (statement.window.limit.toNat + extra.toNat) (UInt32.size - 1) =
      (UInt32.ofNat (min (statement.window.limit.toNat + extra.toNat)
        (UInt32.size - 1))).toNat := by
    rw [UInt32.toNat_ofNat_of_lt']
    exact Nat.lt_of_le_of_lt (Nat.min_le_right _ _) (by decide)
  rw [rowsText_eq, limit]
  exact Sql.readsSelect_text hcolumns hplain htable h.reads_where h.terms.1 h.terms.2 _ _

end Statement

/-! ## Statements of plain catalogs -/

namespace Catalog

variable {catalog : Catalog} {selection : Selection} {statement : Statement}

theorem Filters.spec {condition : Option Condition} (h : catalog.Filters condition statement)
    (hcatalog : catalog.Plain) :
    (∀ predicate ∈ statement.predicate, predicate.Plain) ∧
      ∀ judge params, statement.filterParams <+: params →
        Sql.clauseTruth judge params statement.filterExpr =
          Condition.clauseTruth catalog judge condition := by
  obtain ⟨hpredicate, binds⟩ := h.lowers
  rw [Statement.filterExpr, hpredicate, params_of_binds binds]
  cases condition with
  | none => exact ⟨by simp, fun _ _ _ => rfl⟩
  | some condition =>
      refine ⟨by simpa using Condition.plain_predicate hcatalog condition 0, ?_⟩
      intro judge params hpast
      exact Condition.truth_predicate condition (.behind [] hpast)

theorem Plain.sortTerms (hcatalog : catalog.Plain) (keys : List SortKey) :
    catalog.sortTerms keys ≠ [] ∧
      ∀ term ∈ catalog.sortTerms keys, Sql.isPlain term.column = true :=
  ⟨sortTerms_ne_nil keys,
    forall_sortTerms (p := (Sql.isPlain · = true)) hcatalog.fallback hcatalog.resolve keys⟩

theorem Plain.keysetTerms (hcatalog : catalog.Plain) (field : String) (order : Order) :
    keysetTerms (catalog.resolve field).name catalog.id.name order ≠ [] ∧
      ∀ term ∈ keysetTerms (catalog.resolve field).name catalog.id.name order,
        Sql.isPlain term.column = true :=
  ⟨keysetTerms_ne_nil _ _ order,
    forall_keysetTerms (p := (Sql.isPlain · = true)) (hcatalog.resolve field) hcatalog.id order⟩

theorem Pages.plain (h : catalog.Pages selection statement) (hcatalog : catalog.Plain) :
    statement.Plain := by
  refine ⟨(h.toFilters.spec hcatalog).1, ?_, ?_⟩
  · simp [h.window]
  · rw [h.terms]
    exact hcatalog.sortTerms selection.sorting

theorem PagesBeyond.plain {cursor : Cursor} (h : catalog.PagesBeyond selection cursor statement)
    (hcatalog : catalog.Plain) : statement.Plain := by
  refine ⟨(h.toFilters.spec hcatalog).1, ?_, ?_⟩
  · have column := hcatalog.resolve cursor.sortKey.field
    simpa [h.window, keyset] using ⟨column, hcatalog.id⟩
  · rw [h.terms]
    exact hcatalog.keysetTerms cursor.sortKey.field _

/-- The boundary of a keyset is the test whether a row lies beyond the pair bound for it. -/
theorem truth_keyset (catalog : Catalog) (cursor : Cursor) {before params : List Value}
    {value id : Value} (h : before ++ [value, id] <+: params) (judge : Sql.Test Value → Truth) :
    (catalog.keyset cursor before.length).boundary.expr.truth judge params =
      judge (.beyond (catalog.resolve cursor.sortKey.field).name catalog.id.name
        (travelOrder cursor = .ascending) value id) := by
  obtain ⟨further, rfl⟩ := h
  have first : Expr.bound (before ++ [value, id] ++ further) (before.length + 1) = value := by
    simp [Expr.bound]
  have second : Expr.bound (before ++ [value, id] ++ further) (before.length + 2) = id := by
    simp [Expr.bound]
  rw [Sql.Boundary.expr, Expr.truth, Expr.outcome, Sql.Test.map, Catalog.keyset, first, second]

theorem PagesBeyond.keyset_truth {cursor : Cursor}
    (h : catalog.PagesBeyond selection cursor statement) :
    ∃ value id, catalog.Continues cursor value id ∧
      ∀ judge, Sql.clauseTruth judge statement.params statement.keysetExpr =
        judge (.beyond (catalog.resolve cursor.sortKey.field).name catalog.id.name
          (travelOrder cursor = .ascending) value id) := by
  obtain ⟨value, id, continues, hparams⟩ := h.params
  refine ⟨value, id, continues, fun judge => ?_⟩
  have keysetExpr : statement.keysetExpr =
      some (catalog.keyset cursor statement.filterParams.length).boundary.expr := by
    rw [Statement.keysetExpr, h.window]
    rfl
  have bound : statement.filterParams ++ [value, id] <+: statement.params :=
    ⟨[], by rw [hparams, List.append_nil]⟩
  rw [keysetExpr, Sql.clauseTruth, truth_keyset catalog cursor bound]

theorem filters_and_plain_of_statement (hcatalog : catalog.Plain)
    (h : catalog.statement selection = .ok statement) :
    catalog.Filters selection.condition statement ∧ statement.Plain := by
  cases hcursor : selection.cursor with
  | none =>
      have pages := pages_of_statement hcursor h
      exact ⟨pages.toFilters, pages.plain hcatalog⟩
  | some cursor =>
      have pages := pagesBeyond_of_statement hcursor h
      exact ⟨pages.toFilters, pages.plain hcatalog⟩

/--
Lowering keeps the meaning.  A predicate text has one reading, whose truth value
is that of the condition; the text behind `WHERE` reads as the conjunction of the
predicate and the keyset, and that of the count as the predicate alone.
-/
theorem lowering_preserves_meaning (hcatalog : catalog.Plain) :
    (∀ (condition : Condition) (before after : Bindings) (predicate : Sql.Predicate),
      (condition.lower catalog).Yields before predicate after →
        ∃ expr, Sql.ReadsOnlyAs predicate.text expr ∧
          ∀ judge params, after.params <+: params →
            expr.truth judge params = condition.truth catalog judge) ∧
    ∀ (selection : Selection) (statement : Statement),
      catalog.statement selection = .ok statement →
        ∃ filter keyset : Option Expr,
          Option.Rel Sql.ReadsOnlyAs statement.predicateText filter ∧
          Option.Rel Sql.ReadsOnlyAs statement.keysetText keyset ∧
          Option.Rel Sql.ReadsOnlyAs statement.whereText (Sql.conjoined filter keyset) ∧
          (∀ table, Sql.isPlain table = true → ∀ query,
            Sql.ReadsCount (statement.countText table) query ↔ query = ⟨table, filter⟩) ∧
          (∀ judge, Sql.clauseTruth judge statement.filterParams filter =
            Condition.clauseTruth catalog judge selection.condition) ∧
          ∀ judge, Sql.clauseTruth judge statement.params (Sql.conjoined filter keyset) =
            (Condition.clauseTruth catalog judge selection.condition).and
              (Sql.clauseTruth judge statement.params keyset) := by
  constructor
  · intro condition before after predicate h
    have lowered := Condition.lowered hcatalog condition h
    exact ⟨predicate.expr, (Sql.Predicate.reads_text lowered.plain).only, lowered.meaning⟩
  · intro selection statement h
    obtain ⟨filters, plain⟩ := filters_and_plain_of_statement hcatalog h
    have meaning := (filters.spec hcatalog).2
    refine ⟨statement.filterExpr, statement.keysetExpr, ?_, ?_, ?_, ?_, ?_, ?_⟩
    · exact rel_imp plain.reads_filter fun h => Reads.only h.negation.conjunction
    · exact rel_imp plain.reads_keyset fun h => Reads.only h.primary.negation.conjunction
    · exact rel_imp plain.reads_where Reads.only
    · intro table htable query
      constructor
      · exact fun hquery => hquery.unique (plain.reads_count htable)
      · rintro rfl
        exact plain.reads_count htable
    · exact fun judge => meaning judge _ List.prefix_rfl
    · intro judge
      rw [Sql.clauseTruth_conjoined, meaning judge _ (List.take_prefix _ _)]

theorem lowering_preserves_meaning_of_not_any :
    ∃ expr, Sql.ReadsOnlyAs "NOT ((name = $1 OR name LIKE $2))" expr ∧
      ∀ judge params, [.text "a", .text "b%"] <+: params →
        expr.truth judge params =
          ((judge (.compare "name" .equal (.text "a"))).or
            (judge (.compare "name" .like (.text "b%")))).not := by
  have plain : (ofColumns ⟨"id", .uuid⟩ ⟨"name", .text⟩).Plain :=
    ⟨by decide, by decide, by simp [ofColumns]⟩
  obtain ⟨expr, reads, meaning⟩ := (lowering_preserves_meaning plain).1
    (.not (.any [.eq "name" (.text "a"), .like "name" "b%"])) .empty _ _ rfl
  refine ⟨expr, reads, fun judge params h => ?_⟩
  rw [meaning judge params h, Condition.truth, Condition.truth, Condition.truths,
    Condition.truths, Condition.truths, Truth.any_cons, Truth.any_cons, Truth.any_nil,
    Truth.or_fails]
  rfl

end Catalog

end Stockroom
