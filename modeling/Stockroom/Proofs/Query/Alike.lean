import Stockroom.Proofs.Query.Translation

/-!
# Texts and what a caller gives

Two selections are alike if they differ at most in values, patterns and queries,
in the row of the cursor, and in how they spell the fields of a column.  The
statements of such selections have the same texts: what a caller gives reaches
them through the columns it names and the shape of the selection, never itself.
-/

namespace Stockroom

/-- Both fields stand for columns of one name. -/
structure Catalog.SameColumn (catalog : Catalog) (field other : String) : Prop where
  name : (catalog.resolve field).name = (catalog.resolve other).name

/-! ## Conditions -/

namespace Condition

mutual

/-- Conditions of one shape, whose tests are on the same columns. -/
inductive Alike (catalog : Catalog) : Condition → Condition → Prop
  | eq {field other : String} (column : catalog.SameColumn field other) (a b : Value) :
      Alike catalog (.eq field a) (.eq other b)
  | oneOf {field other : String} (column : catalog.SameColumn field other)
      (values others : List Value) (length : values.length = others.length) :
      Alike catalog (.oneOf field values) (.oneOf other others)
  | like {field other : String} (column : catalog.SameColumn field other) (a b : String) :
      Alike catalog (.like field a) (.like other b)
  | between {field other : String} (column : catalog.SameColumn field other)
      (low high low' high' : Value) :
      Alike catalog (.between field low high) (.between other low' high')
  | fullText {field other : String} (column : catalog.SameColumn field other) (a b : String) :
      Alike catalog (.fullText field a) (.fullText other b)
  | all {parts others : List Condition} (each : AlikeAll catalog parts others) :
      Alike catalog (.all parts) (.all others)
  | any {parts others : List Condition} (each : AlikeAll catalog parts others) :
      Alike catalog (.any parts) (.any others)
  | not {part other : Condition} (inner : Alike catalog part other) :
      Alike catalog (.not part) (.not other)

inductive AlikeAll (catalog : Catalog) : List Condition → List Condition → Prop
  | nil : AlikeAll catalog [] []
  | cons {part other : Condition} {parts others : List Condition}
      (first : Alike catalog part other) (rest : AlikeAll catalog parts others) :
      AlikeAll catalog (part :: parts) (other :: others)

end

variable {catalog : Catalog}

mutual

theorem Alike.length_inputs {a b : Condition} :
    Alike catalog a b → a.inputs.length = b.inputs.length
  | .eq .. | .like .. | .between .. | .fullText .. => rfl
  | .oneOf _ _ _ length => by simpa [inputs] using length
  | .all each | .any each => each.length_inputs
  | .not inner => inner.length_inputs

theorem AlikeAll.length_inputs {as bs : List Condition} :
    AlikeAll catalog as bs → (inputsOf as).length = (inputsOf bs).length
  | .nil => rfl
  | .cons first rest => by
      rw [inputsOf, inputsOf, List.length_append, List.length_append, first.length_inputs,
        rest.length_inputs]

end

mutual

theorem Alike.predicate_eq {a b : Condition} :
    Alike catalog a b → ∀ count, a.predicate catalog count = b.predicate catalog count
  | .eq column _ _, count => by rw [predicate, predicate, column.name]
  | .oneOf _ [] [] _, count => rfl
  | .oneOf column (_ :: _) (_ :: _) length, count => by
      rw [predicate, predicate, column.name, length]
  | .like column _ _, count => by rw [predicate, predicate, column.name]
  | .between column _ _ _ _, count => by rw [predicate, predicate, column.name]
  | .fullText column _ _, count => by rw [predicate, predicate, column.name]
  | .all each, count => by rw [predicate, predicate, each.predicates_eq]
  | .any each, count => by rw [predicate, predicate, each.predicates_eq]
  | .not inner, count => by rw [predicate, predicate, inner.predicate_eq]

theorem AlikeAll.predicates_eq {as bs : List Condition} :
    AlikeAll catalog as bs → ∀ count, predicates catalog count as = predicates catalog count bs
  | .nil, count => rfl
  | .cons first rest, count => by
      rw [predicates, predicates, first.predicate_eq, first.length_inputs, rest.predicates_eq]

end

theorem clauseInputs_length_eq {a b : Option Condition} (h : Option.Rel (Alike catalog) a b) :
    (clauseInputs a).length = (clauseInputs b).length := by
  cases h with
  | none => rfl
  | some alike => exact alike.length_inputs

end Condition

/-! ## Selections -/

structure SortKey.Alike (catalog : Catalog) (a b : SortKey) : Prop where
  column : catalog.SameColumn a.field b.field
  order : a.order = b.order

/-- Cursors that leave a row in one direction, in the same order; the rows may differ. -/
structure Cursor.Alike (catalog : Catalog) (a b : Cursor) : Prop where
  sortKey : a.sortKey.Alike catalog b.sortKey
  travel : a.travel = b.travel

structure Selection.Alike (catalog : Catalog) (a b : Selection) : Prop where
  condition : Option.Rel (Condition.Alike catalog) a.condition b.condition
  sorting : List.Forall₂ (SortKey.Alike catalog) a.sorting b.sorting
  page : a.page = b.page
  size : a.size = b.size
  fields : List.Forall₂ catalog.SameColumn a.fields b.fields
  cursor : Option.Rel (Cursor.Alike catalog) a.cursor b.cursor

namespace Catalog

variable {catalog : Catalog}

theorem sortTerms_eq_of_alike {keys others : List SortKey}
    (h : List.Forall₂ (SortKey.Alike catalog) keys others) :
    catalog.sortTerms keys = catalog.sortTerms others := by
  have terms : keys.map (fun key => Sql.OrderTerm.mk (catalog.resolve key.field).name key.order) =
      others.map fun key => ⟨(catalog.resolve key.field).name, key.order⟩ := by
    induction h with
    | nil => rfl
    | cons first _ ih => rw [List.map_cons, List.map_cons, first.column.name, first.order, ih]
  rw [sortTerms, sortTerms, terms]
  cases h <;> rfl

theorem keyset_eq_of_alike {cursor other : Cursor} (h : cursor.Alike catalog other)
    (count : Nat) : catalog.keyset cursor count = catalog.keyset other count := by
  have order : travelOrder cursor = travelOrder other := by
    rw [travelOrder, travelOrder, h.travel, h.sortKey.order]
  rw [keyset, keyset, h.sortKey.column.name, order, h.travel]

theorem projected_eq_of_alike {fields others : List String}
    (h : List.Forall₂ catalog.SameColumn fields others) (chosen : List String) :
    catalog.projected chosen fields = catalog.projected chosen others := by
  induction h generalizing chosen with
  | nil => rfl
  | cons first _ ih => rw [projected, projected, first.name, ih]

variable {a b : Selection} {statement other : Statement}

theorem Filters.eq_of_alike {condition condition' : Option Condition}
    (ha : catalog.Filters condition statement) (hb : catalog.Filters condition' other)
    (h : Option.Rel (Condition.Alike catalog) condition condition') :
    statement.predicate = other.predicate ∧
      statement.filterParams.length = other.filterParams.length := by
  obtain ⟨hpredicate, binds⟩ := ha.lowers
  obtain ⟨hpredicate', binds'⟩ := hb.lowers
  constructor
  · rw [hpredicate, hpredicate']
    cases h with
    | none => rfl
    | some alike => rw [Option.map_some, Option.map_some, alike.predicate_eq]
  · rw [← binds.length_eq, ← binds'.length_eq, Condition.clauseInputs_length_eq h]

/-- The parts of a statement that its texts are made of. -/
theorem statement_eq_of_alike (h : a.Alike catalog b) (ha : catalog.statement a = .ok statement)
    (hb : catalog.statement b = .ok other) :
    statement.predicate = other.predicate ∧ statement.terms = other.terms ∧
      statement.window = other.window ∧ statement.projection = other.projection := by
  obtain ⟨predicate, count⟩ := (filters_of_statement ha).eq_of_alike (filters_of_statement hb)
    h.condition
  -- Both have a cursor or neither has, so both statements are of one form.
  have cursors := h.cursor
  generalize hcursor : a.cursor = cursor, hcursor' : b.cursor = cursor' at cursors
  cases cursors with
  | none =>
      have pages := pages_of_statement hcursor ha
      have pages' := pages_of_statement hcursor' hb
      refine ⟨predicate, ?_, ?_, ?_⟩
      · rw [pages.terms, pages'.terms, sortTerms_eq_of_alike h.sorting]
      · rw [pages.window, pages'.window, Selection.offset, Selection.offset, h.page, h.size]
      · rw [pages.projection, pages'.projection, projected_eq_of_alike h.fields]
  | some alike =>
      have pages := pagesBeyond_of_statement hcursor ha
      have pages' := pagesBeyond_of_statement hcursor' hb
      refine ⟨predicate, ?_, ?_, ?_⟩
      · rw [pages.terms, pages'.terms, count, keyset_eq_of_alike alike]
      · rw [pages.window, pages'.window, count, keyset_eq_of_alike alike, h.size]
      · rw [pages.projection, pages'.projection, projected_eq_of_alike h.fields]

/-- Selections that are alike have the same texts, whatever their values and fields say. -/
theorem texts_eq_of_alike (h : a.Alike catalog b) (ha : catalog.statement a = .ok statement)
    (hb : catalog.statement b = .ok other) :
    statement.predicateText = other.predicateText ∧
      statement.keysetText = other.keysetText ∧
      statement.orderText = other.orderText ∧
      statement.projection = other.projection ∧
      (∀ extra, statement.windowText extra = other.windowText extra) ∧
      statement.whereText = other.whereText ∧
      (∀ table columns extra,
        statement.rowsText table columns extra = other.rowsText table columns extra) ∧
      ∀ table, statement.countText table = other.countText table := by
  obtain ⟨predicate, terms, window, projection⟩ := statement_eq_of_alike h ha hb
  have predicateText : statement.predicateText = other.predicateText := by
    rw [Statement.predicateText, Statement.predicateText, predicate]
  have keysetText : statement.keysetText = other.keysetText := by
    rw [Statement.keysetText, Statement.keysetText, window]
  have orderText : statement.orderText = other.orderText := by
    rw [Statement.orderText, Statement.orderText, terms]
  have windowText (extra : UInt32) : statement.windowText extra = other.windowText extra := by
    rw [Statement.windowText, Statement.windowText, window]
  have whereText : statement.whereText = other.whereText := by
    rw [Statement.whereText, Statement.whereText, predicateText, keysetText]
  refine ⟨predicateText, keysetText, orderText, projection, windowText, whereText, ?_, ?_⟩
  · intro table columns extra
    rw [statement.rowsText_eq, other.rowsText_eq, whereText, terms, windowText]
  · intro table
    rw [statement.countText_eq, other.countText_eq, predicateText]

/-- A test on a field, behind a row in the order of the same field. -/
def probe (field text : String) : Selection :=
  Draft.empty.require (.eq field (.text text))
    |>.continueFrom ⟨field, .text text, text, .next⟩ |>.build

theorem texts_eq_of_probe :
    ∃ statement other,
      (ofColumns ⟨"id", .text⟩ ⟨"name", .text⟩).statement (probe "name" "acme") =
        .ok statement ∧
      (ofColumns ⟨"id", .text⟩ ⟨"name", .text⟩).statement
        (probe "name = name OR 1=1" "'; DROP TABLE devices") = .ok other ∧
      statement.rowsText "devices" "*" 1 = other.rowsText "devices" "*" 1 := by
  have alike : (probe "name" "acme").Alike (ofColumns ⟨"id", .text⟩ ⟨"name", .text⟩)
      (probe "name = name OR 1=1" "'; DROP TABLE devices") := {
    condition := .some (.eq ⟨by decide⟩ _ _)
    sorting := .nil
    page := rfl
    size := rfl
    fields := .nil
    cursor := .some ⟨⟨⟨by decide⟩, by decide⟩, rfl⟩ }
  refine ⟨_, _, rfl, rfl, ?_⟩
  exact (texts_eq_of_alike alike rfl rfl).2.2.2.2.2.2.1 "devices" "*" 1

end Catalog

end Stockroom
