import Stockroom.Proofs.Database.Basic
import Stockroom.Proofs.Text.Numeral

/-!
# Cursors in statements

A cursor is lowered as a whole or not at all.  Both of its values are read as values of the
kinds of their columns before one of them is bound, and a window that is opened behind them
takes exactly the rows behind the pair, in the order in which its terms put the rows.
-/

namespace Stockroom

/-! ## Values in columns -/

/-- The kind of the columns that hold such values. -/
def Value.kind? : Value → Option Kind
  | .text _ => some .text
  | .instant _ => some .timestamp
  | .int _ => some .integer
  | .uuid _ => some .uuid
  | .null | .bool _ | .float _ => none

/-- What a JSON value stands for in a column of the kind. -/
inductive Kind.Denotes : Kind → Json → Value → Prop where
  | text (s : String) : Denotes .text (.text s) (.text s)
  | timestamp {s : String} {t : Instant} (parsed : Instant.parse? s = some t) :
      Denotes .timestamp (.text s) (.instant t)
  | uuid {s : String} {id : Uuid} (parsed : Uuid.parse? s = some id) :
      Denotes .uuid (.text s) (.uuid id)
  | number (n : Int64) : Denotes .integer (.int n.toInt) (.int n)
  | numeral {s : String} {n : Int64}
      (spelled : Text.SpellsInteger (Text.trimChars s.toList) n.toInt) :
      Denotes .integer (.text s) (.int n)

theorem Kind.Denotes.kind? {kind : Kind} {json : Json} {value : Value}
    (h : kind.Denotes json value) : value.kind? = some kind := by
  cases h <;> rfl

theorem Kind.read?_eq_some_iff {kind : Kind} {s : String} {value : Value} :
    kind.read? s = some value ↔ kind.Denotes (.text s) value := by
  constructor
  · intro h
    cases kind with
    | text =>
        obtain rfl := Option.some.inj h
        exact .text s
    | timestamp =>
        obtain ⟨t, parsed, rfl⟩ := Option.map_eq_some_iff.mp h
        exact .timestamp parsed
    | integer =>
        obtain ⟨n, read, rfl⟩ := Option.map_eq_some_iff.mp h
        exact .numeral (Text.readInt64_eq_ok_iff.mp (Text.toOption_eq_some_iff.mp read))
    | uuid =>
        obtain ⟨id, parsed, rfl⟩ := Option.map_eq_some_iff.mp h
        exact .uuid parsed
  · intro h
    cases h with
    | text => rfl
    | timestamp parsed => rw [read?, parsed, Option.map_some]
    | numeral spelled =>
        have read := Text.toOption_eq_some_iff.mpr (Text.readInt64_eq_ok_iff.mpr spelled)
        rw [read?, read, Option.map_some]
    | uuid parsed => rw [read?, parsed, Option.map_some]

theorem Cursor.readJson_eq_ok_iff {kind : Kind} {json : Json} {value : Value} :
    readJson kind json = .ok value ↔ kind.Denotes json value := by
  constructor
  · intro h
    cases json with
    | text s =>
        rw [readJson, Catalog.mapError_eq_ok, Kind.coerce] at h
        refine Kind.read?_eq_some_iff.mp ?_
        cases read : kind.read? s with
        | none => simp [read] at h
        | some found =>
            simp only [read, Except.ok.injEq] at h
            rw [h]
    | int n =>
        rw [readJson] at h
        split_ifs at h with integer range
        obtain rfl := Except.ok.inj h
        have number := Kind.Denotes.number (.ofInt n)
        rwa [Int64.toInt_ofInt_of_le range.1 (Int.lt_add_one_of_le range.2), ← integer] at number
    | float x =>
        rw [readJson] at h
        split_ifs at h
    | null | bool | array | object => simp [readJson] at h
  · intro h
    cases json with
    | text s => rw [readJson, Catalog.mapError_eq_ok, Kind.coerce, Kind.read?_eq_some_iff.mpr h]
    | int n =>
        cases h with
        | number n =>
            have fits : (Value.int n).Fits .integer := ⟨n, rfl⟩
            exact readJson_json fits
    | null | bool | float | array | object => cases h

/-! ## Pairs of columns -/

namespace Sql

variable (compare : String → Value → Value → Ordering)

/-- The tests of pairs of columns on a row: the second columns decide if the first are equal. -/
structure ComparesPairs (row : String → Value) (judge : Test Value → Truth) : Prop where
  above : ∀ column id value idValue, judge (.beyond column id true value idValue) = .holds ↔
    compare column (row column) value = .gt ∨
      compare column (row column) value = .eq ∧ compare id (row id) idValue = .gt
  below : ∀ column id value idValue, judge (.beyond column id false value idValue) = .holds ↔
    compare column (row column) value = .lt ∨
      compare column (row column) value = .eq ∧ compare id (row id) idValue = .lt

/-- The order of pairs by a column and then by the identifier. -/
def comparePairs (column id : String) : Value × Value → Value × Value → Ordering :=
  compareLex (fun p q => compare column p.1 q.1) fun p q => compare id p.2 q.2

variable {compare}

theorem comparePairs_eq_lt_iff {column id : String} {p q : Value × Value} :
    comparePairs compare column id p q = .lt ↔ compare column p.1 q.1 = .lt ∨
      compare column p.1 q.1 = .eq ∧ compare id p.2 q.2 = .lt :=
  Ordering.then_eq_lt

/-- A test of pairs holds of the rows behind the bound pair, in the order of the test's sign. -/
theorem ComparesPairs.holds_iff [∀ column, Std.OrientedCmp (compare column)]
    {row : String → Value} {judge : Test Value → Truth} (h : ComparesPairs compare row judge)
    (column id : String) (order : Order) (value idValue : Value) :
    judge (.beyond column id (order = .ascending) value idValue) = .holds ↔
      order.directed (comparePairs compare column id) (value, idValue) (row column, row id) =
        .lt := by
  cases order with
  | ascending =>
      -- The test compares the row with the pair, and the order the pair with the row.
      rw [Order.directed, comparePairs_eq_lt_iff, ← Std.OrientedCmp.gt_iff_lt,
        ← Std.OrientedCmp.gt_iff_lt, Std.OrientedCmp.eq_comm]
      exact h.above column id value idValue
  | descending =>
      rw [Order.directed, comparePairs_eq_lt_iff]
      exact h.below column id value idValue

end Sql

/-! ## Windows behind a cursor -/

/--
The keyset takes the rows behind the bound pair, in the order that its terms state.  Where the
column is the identifier itself, the terms name it once and the pairs have it twice.
-/
structure Keyset.TakesBehind (keyset : Keyset) (column id : String) (params : List Value)
    (value idValue : Value) : Prop where
  columns : keyset.terms.map Sql.OrderTerm.column = if column = id then [id] else [column, id]
  takes : ∃ order, (∀ term ∈ keyset.terms, term.order = order) ∧
    ∀ (compare : String → Value → Value → Ordering) (row : String → Value)
      (judge : Sql.Test Value → Truth), (∀ column, Std.TransCmp (compare column)) →
      Sql.ComparesPairs compare row judge →
        (keyset.boundary.expr.truth judge params = .holds ↔
          order.directed (Sql.comparePairs compare column id) (value, idValue)
            (row column, row id) = .lt)

namespace Catalog

/-- The values of the cursor stand for values in their columns. -/
structure Reads (catalog : Catalog) (cursor : Cursor) (value id : Value) : Prop where
  value : (catalog.resolve cursor.sortKey.field).kind.Denotes cursor.value value
  id : catalog.id.kind.Denotes (.text cursor.id) id

theorem continues_iff_reads {catalog : Catalog} {cursor : Cursor} {value id : Value} :
    catalog.Continues cursor value id ↔ catalog.Reads cursor value id := by
  have valueRead : cursor.readValue (catalog.resolve cursor.sortKey.field).kind = .ok value ↔ _ :=
    mapError_eq_ok.trans Cursor.readJson_eq_ok_iff
  have idRead : cursor.readId catalog.id.kind = .ok id ↔ _ :=
    mapError_eq_ok.trans Cursor.readJson_eq_ok_iff
  exact ⟨fun ⟨hvalue, hid⟩ => ⟨valueRead.mp hvalue, idRead.mp hid⟩,
    fun ⟨hvalue, hid⟩ => ⟨valueRead.mpr hvalue, idRead.mpr hid⟩⟩

variable (catalog : Catalog) (cursor : Cursor)

theorem columns_keysetTerms (column id : String) (order : Order) :
    (keysetTerms column id order).map Sql.OrderTerm.column =
      if column = id then [id] else [column, id] := by
  unfold keysetTerms
  split <;> rfl

theorem order_keysetTerms (column id : String) (order : Order) :
    ∀ term ∈ keysetTerms column id order, term.order = order := by
  unfold keysetTerms
  split <;> simp

theorem takesBehind_keyset {before params : List Value} {value id : Value}
    (h : before ++ [value, id] <+: params) :
    (catalog.keyset cursor before.length).TakesBehind
      (catalog.resolve cursor.sortKey.field).name catalog.id.name params value id where
  columns := columns_keysetTerms ..
  takes := by
    refine ⟨travelOrder cursor, order_keysetTerms _ _ _, fun compare row judge total pairs => ?_⟩
    rw [truth_keyset catalog cursor h]
    exact pairs.holds_iff ..

variable {catalog cursor} {selection : Selection} {before after : Bindings}

theorem yields_lowerWindow_iff (h : selection.cursor = some cursor) {window : Window} :
    (catalog.lowerWindow selection).Yields before window after ↔
      ∃ keyset, (catalog.lowerCursor cursor).Yields before keyset after ∧
        window = ⟨selection.size, none, some keyset⟩ := by
  rw [lowerWindow, h]
  simp only [Lowering.yields_bind, Lowering.yields_pure]
  constructor
  · rintro ⟨keyset, _, yields, rfl, rfl⟩
    exact ⟨keyset, yields, rfl⟩
  · rintro ⟨keyset, yields, rfl⟩
    exact ⟨keyset, after, yields, rfl, rfl⟩

/-- A window behind the pair of a cursor, which is bound as two parameters. -/
structure OpensBehind (catalog : Catalog) (selection : Selection) (cursor : Cursor)
    (before after : Bindings) (window : Window) (value id : Value) (keyset : Keyset) : Prop where
  reads : catalog.Reads cursor value id
  valueKind : value.kind? = some (catalog.resolve cursor.sortKey.field).kind
  idKind : id.kind? = some catalog.id.kind
  params : after.params = before.params ++ [value, id]
  window : window = ⟨selection.size, none, some keyset⟩
  reading : catalog.Plain → Sql.ReadsOnlyAs keyset.boundary.text keyset.boundary.expr
  ordering : catalog.Plain → Sql.OrdersOnlyBy (Sql.orderText keyset.terms) keyset.terms
  takes : ∀ params, after.params <+: params → keyset.TakesBehind
    (catalog.resolve cursor.sortKey.field).name catalog.id.name params value id

theorem exists_opensBehind (h : selection.cursor = some cursor) {window : Window}
    (yields : (catalog.lowerWindow selection).Yields before window after) :
    ∃ value id keyset,
      catalog.OpensBehind selection cursor before after window value id keyset := by
  obtain ⟨_, lowered, rfl⟩ := (yields_lowerWindow_iff h).mp yields
  obtain ⟨value, id, continues, rfl, bound⟩ := yields_lowerCursor lowered
  have reads := continues_iff_reads.mp continues
  refine ⟨value, id, _, reads, reads.value.kind?, reads.id.kind?, bound, rfl, fun plain => ?_,
    fun plain => ?_, fun params past => ?_⟩
  · let boundary := (catalog.keyset cursor before.params.length).boundary
    have column : Sql.isPlain boundary.column = true := plain.resolve cursor.sortKey.field
    have reading := (Sql.readsAt_boundary column plain.id).primary.negation.conjunction
    exact Sql.Reads.only reading
  · obtain ⟨some, columns⟩ := plain.keysetTerms cursor.sortKey.field (travelOrder cursor)
    exact Sql.ordersOnlyBy_text some columns
  · rw [bound] at past
    exact takesBehind_keyset catalog cursor past

/--
A selection with a cursor gets a window exactly if both values of the cursor can be read;
otherwise the cursor is at fault and nothing is bound.  For a window two parameters are bound,
which have the kinds of the columns, and in place of an offset there is a comparison that takes
the rows behind the two in the order that the terms state.  Over plain columns the texts of the
comparison and of the terms have no other reading.
-/
theorem cursor_lowered_whole (catalog : Catalog) {selection : Selection} {cursor : Cursor}
    (h : selection.cursor = some cursor) (before : Bindings) :
    ((∃ window after, (catalog.lowerWindow selection).Yields before window after) ↔
      ∃ value id, catalog.Reads cursor value id) ∧
    ((¬∃ value id, catalog.Reads cursor value id) → ∃ cause after,
      (catalog.lowerWindow selection).Fails before (.invalidCursor cause) after ∧
        after.params = before.params) ∧
    ∀ window after, (catalog.lowerWindow selection).Yields before window after →
      ∃ value id keyset,
        catalog.OpensBehind selection cursor before after window value id keyset := by
  refine ⟨⟨?_, ?_⟩, fun unreadable => ?_, fun window after => exists_opensBehind h⟩
  · rintro ⟨window, after, yields⟩
    obtain ⟨value, id, _, behind⟩ := exists_opensBehind h yields
    exact ⟨value, id, behind.reads⟩
  · rintro ⟨value, id, reads⟩
    obtain ⟨after, lowered⟩ := exists_yields_lowerCursor (continues_iff_reads.mpr reads) before
    exact ⟨_, after, (yields_lowerWindow_iff h).mpr ⟨_, lowered, rfl⟩⟩
  · simp only [← continues_iff_reads] at unreadable
    obtain ⟨cause, after, refused, unchanged⟩ := exists_fails_lowerCursor unreadable before
    refine ⟨cause, after, ?_, unchanged⟩
    rw [lowerWindow, h]
    exact refused.bind _

/-- Every field stands for the number that tells the rows apart. -/
def ranks : Catalog := ofColumns ⟨"rank", .integer⟩ ⟨"rank", .integer⟩

/-- A row whose rank is told a second time, with a sign and between blanks. -/
def ranked (rank : Json) : Selection :=
  { Draft.empty.build with cursor := some ⟨"-rank", rank, " +7\n", .prev⟩ }

theorem cursor_lowered_whole_of_ranked :
    (∃ after keyset, (ranks.lowerWindow (ranked (.int (-2)))).Yields ⟨[.null], []⟩
      ⟨20, none, some keyset⟩ after ∧ after.params = [.null, .int (-2), .int 7] ∧
        keyset.TakesBehind "rank" "rank" after.params (.int (-2)) (.int 7)) ∧
    ∃ cause after, (ranks.lowerWindow (ranked (.bool true))).Fails ⟨[.null], []⟩
      (.invalidCursor cause) after ∧ after.params = [.null] := by
  constructor
  · have yields : (ranks.lowerWindow (ranked (.int (-2)))).Yields ⟨[.null], []⟩ _
        ⟨[.null, .int (-2), .int 7], [⟨"rank", "rank"⟩]⟩ := rfl
    obtain ⟨value, id, keyset, behind⟩ :=
      (cursor_lowered_whole ranks rfl ⟨[.null], []⟩).2.2 _ _ yields
    have pair : [.null, .int (-2), .int 7] = [.null, value, id] := behind.params
    simp only [List.cons.injEq, true_and, and_true] at pair
    obtain ⟨rfl, rfl⟩ := pair
    exact ⟨_, keyset, behind.window ▸ yields, rfl, behind.takes _ List.prefix_rfl⟩
  · exact (cursor_lowered_whole ranks rfl ⟨[.null], []⟩).2.1 fun ⟨_, _, reads⟩ =>
      nomatch reads.value

end Catalog

end Stockroom
