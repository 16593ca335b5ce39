import Stockroom.Proofs.Inventory.Continuation
import Stockroom.Proofs.Inventory.Return

/-!
# What the flags of a page say

Behind a cursor a page says on the side of travel whether a row was fetched that it has
no room for, and takes it for granted that there are rows on the other side.  If the
cursor leaves a row of the list, both are the truth about the table.
-/

namespace Stockroom

open Database (position)

variable {db : Database} {queries : Queries Id} {selection : Selection} {statement : Statement}
  {cursor : Cursor}

/-! ## Flags and fetched rows -/

theorem Page.goesOn_assemble (hcursor : selection.cursor = some cursor) (statement : Statement)
    (total : Int) (rows : List Device) :
    (assemble selection statement total rows).info.goesOn cursor.travel =
        decide (selection.size.toNat < rows.length) ∧
      (assemble selection statement total rows).info.goesOn cursor.travel.opposite = true := by
  simp only [assemble, Selection.sides, hcursor, Option.map_some]
  cases cursor.travel <;> exact ⟨rfl, rfl⟩

/-- The page of a cursor that leaves a row, by the rows ahead of this row. -/
theorem Page.exists_list_flags (hqueries : db.Faithful queries) {device : Device} {sort : String}
    {travel : Travel} (hcursor : selection.cursor = some (device.cursor sort travel))
    (hfilters : Device.catalog.Filters selection.condition statement)
    (hsize : selection.size.toNat < UInt32.size - 1) (hdevice : device.Readable)
    {rest : List Device}
    (ahead : db.Ahead selection.condition (Device.catalog.resolve (SortKey.parse sort).field).name
      (travel.along (SortKey.parse sort).order)
      (position (Device.catalog.resolve (SortKey.parse sort).field).name device) rest) :
    ∃ page, Page.list queries Device.catalog selection = pure page ∧
      page.items = travel.shown (rest.take selection.size.toNat) ∧
      (page.info.goesOn travel = true ↔ selection.size.toNat < rest.length) ∧
      page.info.goesOn travel.opposite = true := by
  have continues := Device.continues_cursor hdevice sort travel
  obtain ⟨next, hnext⟩ := Catalog.exists_statement_of_continues hfilters hcursor continues
  have along : Catalog.travelOrder (device.cursor sort travel) =
      travel.along (SortKey.parse sort).order := Catalog.travelOrder_eq _
  rw [← along] at ahead
  obtain ⟨total, hpage⟩ :=
    exists_list_rows_beyond hqueries hcursor hnext hsize continues ahead
  have beyond := Catalog.pagesBeyond_of_statement hcursor hnext
  have items := (takes_assemble hcursor beyond total rest).items
  obtain ⟨more, back⟩ := goesOn_assemble hcursor next total
    (rest.take (selection.size.toNat + 1))
  refine ⟨_, hpage, items, ?_, back⟩
  have fetched : selection.size.toNat < (rest.take (selection.size.toNat + 1)).length ↔
      selection.size.toNat < rest.length := by
    rw [List.length_take]
    omega
  rw [← fetched]
  exact more ▸ decide_eq_true_iff

/-! ## Rows beyond the edge of a page -/

/-- There are rows beyond the edge of a page exactly if the rows ahead do not all fit on it. -/
theorem Database.Ahead.exists_beyond_iff {condition : Option Condition} {column : String}
    {order : Order} {device : Device} {rest : List Device}
    (h : db.Ahead condition column order (position column device) rest) (size : Nat)
    (hsize : 0 < size) :
    (∃ other, db.Matches condition other ∧ db.Precedes column order
        (position column ((rest.take size).getLast?.getD device)) (position column other)) ↔
      size < rest.length := by
  cases hlast : (rest.take size).getLast? with
  | none =>
      have empty : rest = [] := by
        cases rest with
        | nil => rfl
        | cons first further => simp [Nat.ne_of_gt hsize] at hlast
      subst empty
      simpa using fun other => (h.mem other).mpr
  | some last =>
      have left : (∃ other, other ∈ rest.drop size) ↔ size < rest.length := by
        rw [← List.length_pos_iff_exists_mem, List.length_drop, Nat.sub_pos_iff_lt]
      rw [← left, Option.getD_some]
      exact exists_congr fun other => ((h.drop hlast).mem other).symm

/-! ## The flags of a page -/

/-- The order of a sort key, in which the identifier breaks ties. -/
def Database.Before (db : Database) (key : SortKey) (a b : Device) : Prop :=
  db.Precedes (Device.catalog.resolve key.field).name key.order
    (position (Device.catalog.resolve key.field).name a)
    (position (Device.catalog.resolve key.field).name b)

/--
The flags of a page behind a cursor are true, if the cursor leaves a matching row.  There
is more in the direction of travel if and only if a matching row lies beyond the last one
shown, or beyond the row that was left if none is shown.  There is always more on the
other side, and a matching row lies there.
-/
theorem flags_tell_truth (db : Database) {queries : Queries Id} (hqueries : db.Faithful queries)
    {selection : Selection} {device : Device} {sort : String} {travel : Travel}
    (hcursor : selection.cursor = some (device.cursor sort travel))
    (hdevice : db.Matches selection.condition device) {filtered : Statement}
    (hfilter : Device.catalog.statement { selection with cursor := none } = .ok filtered)
    (hsize : selection.size.toNat < UInt32.size - 1) :
    ∃ page, Page.list queries Device.catalog selection = pure page ∧
      match travel with
      | .next =>
          (page.info.hasNext = true ↔ ∃ other, db.Matches selection.condition other ∧
            db.Before (SortKey.parse sort) (page.items.getLast?.getD device) other) ∧
          page.info.hasPrevious = true ∧
          ∃ other, db.Matches selection.condition other ∧
            ¬db.Before (SortKey.parse sort) device other ∧
            ∀ item ∈ page.items, db.Before (SortKey.parse sort) other item
      | .prev =>
          (page.info.hasPrevious = true ↔ ∃ other, db.Matches selection.condition other ∧
            db.Before (SortKey.parse sort) other (page.items.head?.getD device)) ∧
          page.info.hasNext = true ∧
          ∃ other, db.Matches selection.condition other ∧
            ¬db.Before (SortKey.parse sort) other device ∧
            ∀ item ∈ page.items, db.Before (SortKey.parse sort) item other := by
  have filters : Device.catalog.Filters selection.condition filtered :=
    (Catalog.pages_of_statement rfl hfilter).toFilters
  obtain ⟨rest, ahead⟩ := db.exists_ahead selection.condition
    (Device.catalog.resolve (SortKey.parse sort).field).name
    (travel.along (SortKey.parse sort).order)
    (position (Device.catalog.resolve (SortKey.parse sort).field).name device)
  obtain ⟨page, hpage, items, more, back⟩ := Page.exists_list_flags hqueries hcursor filters hsize
    (db.readable device hdevice.1) ahead
  have beyond := ahead.exists_beyond_iff selection.size.toNat selection.size_pos
  have shown : ∀ item ∈ rest.take selection.size.toNat, item ∈ rest :=
    fun item => List.mem_of_mem_take
  refine ⟨page, hpage, ?_⟩
  cases travel with
  | next =>
      refine ⟨?_, back, device, hdevice, Database.Precedes.irrefl _, fun item shows => ?_⟩
      · rw [items]
        exact more.trans beyond.symm
      · rw [items] at shows
        exact ((ahead.mem item).mp (shown item shows)).2
  | prev =>
      refine ⟨?_, back, device, hdevice, Database.Precedes.irrefl _, fun item shows => ?_⟩
      · rw [items, Travel.shown, List.head?_reverse]
        refine (more.trans beyond.symm).trans ?_
        exact exists_congr fun other => and_congr_right fun _ => Database.precedes_reverse
      · rw [items, Travel.shown, List.mem_reverse] at shows
        exact Database.precedes_reverse.mp ((ahead.mem item).mp (shown item shows)).2

/-- Behind the first of two twins a page of one row shows the second, and nothing is behind it. -/
theorem flags_tell_truth_of_twin :
    ∃ page, Page.list Database.twins.queries Device.catalog
        (.single [] (some ((Device.twin ⟨1, by decide⟩).cursor "brand" .next))) = pure page ∧
      page.items = [.twin ⟨2, by decide⟩] ∧ page.info.hasNext = false ∧
      page.info.hasPrevious = true := by
  have faithful := Database.twins.faithful_queries
  have start : (Selection.single []
      (some ((Device.twin ⟨1, by decide⟩).cursor "brand" .next))).cursor =
        some ((Device.twin ⟨1, by decide⟩).cursor "brand" .next) := rfl
  have matching : Database.twins.Matches none (.twin ⟨1, by decide⟩) := ⟨by decide, rfl⟩
  obtain ⟨page, hpage, more, back, -⟩ := flags_tell_truth Database.twins faithful start matching
    rfl (by decide)
  have ahead := Database.ahead_twins.drop (n := 1)
    (show _ = some (Device.twin ⟨1, by decide⟩) from rfl)
  obtain ⟨other, hother, items, -, -⟩ := Page.exists_list_flags faithful start
    (Catalog.pagesBeyond_of_statement start rfl).toFilters (by decide)
    (Device.readable_twin ⟨1, by decide⟩) ahead
  obtain rfl : page = other := Except.ok.inj (hpage.symm.trans hother)
  have shown : page.items = [.twin ⟨2, by decide⟩] := items
  refine ⟨page, hpage, shown, ?_, back⟩
  rw [← Bool.not_eq_true, more, shown]
  rintro ⟨third, present, beyond⟩
  have nothing := Database.ahead_twins.drop (n := 2)
    (show _ = some (Device.twin ⟨2, by decide⟩) from rfl)
  exact absurd ((nothing.mem third).mpr ⟨present, beyond⟩) List.not_mem_nil

end Stockroom
