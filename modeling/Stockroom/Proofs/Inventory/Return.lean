import Stockroom.Proofs.Inventory.Walk

/-!
# There and back

From a page one may follow its token on either side and then come back.  The rows
of the page stand together among all matching rows, and whoever stands on the
next row and looks back sees them first: what the way back asks for is the page
that was left.
-/

namespace Stockroom

open Database (position)

variable {db : Database} {queries : Queries Id} {selection : Selection} {statement : Statement}
  {cursor : Cursor}

/-! ## The order of travel -/

namespace Travel

def along : Travel → Order → Order
  | .next, order => order
  | .prev, order => order.reverse

@[simp] theorem along_opposite (travel : Travel) (order : Order) :
    travel.opposite.along order = (travel.along order).reverse := by
  cases travel <;> simp [along, opposite]

@[simp] theorem shown_nil {α : Type} (travel : Travel) :
    travel.shown ([] : List α) = [] := by
  cases travel <;> rfl

theorem eq_or_eq_opposite (travel other : Travel) : other = travel ∨ other = travel.opposite := by
  cases travel <;> cases other <;> simp [opposite]

@[simp] theorem shown_opposite {α : Type} (travel : Travel) (items : List α) :
    travel.opposite.shown items = (travel.shown items).reverse := by
  cases travel <;> simp [shown, opposite]

end Travel

theorem Catalog.travelOrder_eq (cursor : Cursor) :
    travelOrder cursor = cursor.travel.along cursor.sortKey.order := by
  unfold travelOrder
  cases cursor.travel <;> rfl

/-! ## A page among all rows -/

/-- The rows of a page among all matching rows; a page with room left has no rows behind it. -/
structure Database.Stands (db : Database) (condition : Option Condition) (column : String)
    (order : Order) (size : Nat) (behind window ahead : List Device) : Prop where
  ranked : db.Ranked condition column order (behind ++ window ++ ahead)
  fits : window.length ≤ size
  full : window.length < size → behind = []

namespace Database.Stands

variable {condition : Option Condition} {column : String} {order : Order} {size : Nat}
  {behind window ahead : List Device}

theorem ahead_of_last (h : db.Stands condition column order size behind window ahead)
    {last : Device} (hlast : window.getLast? = some last) :
    db.Ahead condition column order (position column last) ahead := by
  obtain ⟨init, hinit⟩ := List.getLast?_eq_some_iff.mp hlast
  have cut : behind ++ window ++ ahead = (behind ++ init) ++ last :: ahead := by
    simp [hinit]
  exact h.ranked.ahead_of_eq_append cut

theorem ahead_back_of_first {first : Device} {further : List Device}
    (h : db.Stands condition column order size behind window (first :: further)) :
    db.Ahead condition column order.reverse (position column first)
      (window.reverse ++ behind.reverse) := by
  have cut : (behind ++ window ++ first :: further).reverse =
      further.reverse ++ first :: (window.reverse ++ behind.reverse) := by
    simp
  exact h.ranked.reverse.ahead_of_eq_append cut

/-- Looking back one sees the page before anything behind it. -/
theorem take_back (h : db.Stands condition column order size behind window ahead) :
    (window.reverse ++ behind.reverse).take size = window.reverse := by
  rcases Nat.lt_or_eq_of_le h.fits with room | exact
  · rw [h.full room, List.reverse_nil, List.append_nil,
      List.take_of_length_le (by simpa using h.fits)]
  · rw [← exact, ← List.length_reverse, List.take_left]

end Database.Stands

/-! ## The rows that a page leaves -/

namespace Page

variable {page : Page} {size : Nat} {rest : List Device}

theorem Takes.tokenBack_of_cons {first : Device} {further : List Device}
    (h : page.Takes cursor size (first :: further)) (hsize : 0 < size) :
    page.info.token cursor.travel.opposite =
      some (first.cursor cursor.field cursor.travel.opposite).token := by
  rw [h.tokenBack, List.head?_take, if_neg (Nat.ne_of_gt hsize)]
  rfl

theorem Takes.exists_last (h : page.Takes cursor size rest) {travel : Travel} {token : String}
    (htoken : page.info.token travel = some token) :
    ∃ last, (travel.shown page.items).getLast? = some last ∧
      token = (last.cursor cursor.field travel).token := by
  rcases cursor.travel.eq_or_eq_opposite travel with rfl | rfl
  · rw [h.token] at htoken
    split at htoken
    next =>
      obtain ⟨last, hlast, rfl⟩ := Option.map_eq_some_iff.mp htoken
      exact ⟨last, by rw [h.items, Travel.shown_shown, hlast], rfl⟩
    next => cases htoken
  · rw [h.tokenBack] at htoken
    obtain ⟨first, hfirst, rfl⟩ := Option.map_eq_some_iff.mp htoken
    refine ⟨first, ?_, rfl⟩
    rw [h.items, Travel.shown_opposite, Travel.shown_shown, List.getLast?_reverse, hfirst]

/-- Wherever a page has a token, its rows stand in front of those that the token leads to. -/
theorem Takes.exists_stands (h : page.Takes cursor size rest) {condition : Option Condition}
    {column : String} {start : Database.Position}
    (ahead : db.Ahead condition column (Catalog.travelOrder cursor) start rest) {travel : Travel}
    (htoken : page.info.token travel ≠ none) :
    ∃ behind further, db.Stands condition column (travel.along cursor.sortKey.order) size behind
      (travel.shown page.items) further := by
  obtain ⟨ranked, hranked⟩ := db.exists_ranked condition column (Catalog.travelOrder cursor)
  obtain ⟨front, rfl⟩ := hranked.exists_eq_append ahead
  rw [h.items]
  rcases cursor.travel.eq_or_eq_opposite travel with rfl | rfl
  -- Onward the page has a token only if it is full.
  · rw [Catalog.travelOrder_eq] at hranked
    rw [Travel.shown_shown]
    refine ⟨front, rest.drop size, ?_, List.length_take_le _ _, fun room => ?_⟩
    · rwa [List.append_assoc, List.take_append_drop]
    · have more : size < rest.length := by
        by_contra few
        rw [h.token, if_neg few] at htoken
        exact htoken rfl
      rw [List.length_take, Nat.min_eq_left (Nat.le_of_lt more)] at room
      exact absurd room (Nat.lt_irrefl size)
  -- On the way back what lies behind the page is what it did not take.
  · rw [Travel.along_opposite, ← Catalog.travelOrder_eq, Travel.shown_opposite,
      Travel.shown_shown]
    refine ⟨(rest.drop size).reverse, front.reverse, ?_, ?_, fun room => ?_⟩
    · rw [← List.reverse_append, List.take_append_drop, ← List.reverse_append]
      exact hranked.reverse
    · rw [List.length_reverse]
      exact List.length_take_le _ _
    · rw [List.length_reverse, List.length_take] at room
      rw [List.reverse_eq_nil_iff, List.drop_eq_nil_iff]
      omega

/-- A cursor that leaves a row leads to the page that takes the rows ahead of it. -/
theorem exists_list_ahead (hqueries : db.Faithful queries) {device : Device} {sort : String}
    {travel : Travel} (hcursor : selection.cursor = some (device.cursor sort travel))
    (hfilters : Device.catalog.Filters selection.condition statement)
    (hsize : selection.size.toNat < UInt32.size - 1) (hdevice : device.Readable)
    (ahead : db.Ahead selection.condition (Device.catalog.resolve (SortKey.parse sort).field).name
      (travel.along (SortKey.parse sort).order)
      (position (Device.catalog.resolve (SortKey.parse sort).field).name device) rest) :
    ∃ page, Page.list queries Device.catalog selection = pure page ∧
      page.Takes (device.cursor sort travel) selection.size.toNat rest := by
  have continues := Device.continues_cursor hdevice sort travel
  have along : Catalog.travelOrder (device.cursor sort travel) =
      travel.along (SortKey.parse sort).order := Catalog.travelOrder_eq _
  obtain ⟨next, hnext⟩ := Catalog.exists_statement_of_continues hfilters hcursor continues
  rw [← along] at ahead
  exact exists_list_beyond hqueries hcursor hnext hsize continues ahead

/-- The page has a token on the side, which is accepted and leads to the next page. -/
def LeadsTo (queries : Queries Id) (selection : Selection) (page : Page) (travel : Travel)
    (next : Page) : Prop :=
  ∃ token cursor, page.info.token travel = some token ∧ Cursor.ofToken token = .ok cursor ∧
    Page.list queries Device.catalog { selection with cursor := some cursor } = pure next

end Page

/-! ## There and back -/

/--
Whoever follows a token of a page that was asked for with a cursor, and meets any
rows, finds a token there that leads back to the same rows in the same order.
-/
theorem return_shows_same_page (db : Database) {queries : Queries Id}
    (hqueries : db.Faithful queries) {token : String} {cursor : Cursor}
    (htoken : Cursor.ofToken token = .ok cursor) {selection : Selection}
    (hcursor : selection.cursor = some cursor) {statement : Statement}
    (hstatement : Device.catalog.statement selection = .ok statement)
    (hsize : selection.size.toNat < UInt32.size - 1) :
    ∃ page, Page.list queries Device.catalog selection = pure page ∧
      ∀ travel, page.info.token travel ≠ none →
        ∃ next, page.LeadsTo queries selection travel next ∧
          (next.items ≠ [] →
            ∃ again, next.LeadsTo queries selection travel.opposite again ∧
              again.items = page.items) := by
  have beyond := Catalog.pagesBeyond_of_statement hcursor hstatement
  obtain ⟨value, id, continues, -⟩ := beyond.params
  have named : (SortKey.parse cursor.field).field ≠ "" := Cursor.field_ne_empty_of_ofToken htoken
  obtain ⟨rest, ahead⟩ := db.exists_ahead selection.condition
    (Device.catalog.resolve cursor.sortKey.field).name (Catalog.travelOrder cursor) (value, id)
  obtain ⟨page, hpage, takes⟩ :=
    Page.exists_list_beyond hqueries hcursor hstatement hsize continues ahead
  refine ⟨page, hpage, fun travel honward => ?_⟩
  -- The way there starts from the last row of the page.
  obtain ⟨onward, honward'⟩ := Option.ne_none_iff_exists'.mp honward
  obtain ⟨last, hlast, rfl⟩ := takes.exists_last honward'
  obtain ⟨behind, further, stands⟩ := takes.exists_stands ahead honward
  have lastMatches := (stands.ranked.mem last).mp (by simp [List.mem_of_getLast? hlast])
  have there : { selection with cursor := some (last.cursor cursor.field travel) }.cursor =
      some (last.cursor cursor.field travel) := rfl
  obtain ⟨next, hnext, nextTakes⟩ := Page.exists_list_ahead hqueries there beyond.toFilters hsize
    (db.readable last lastMatches.1) (stands.ahead_of_last hlast)
  refine ⟨next, ⟨_, _, honward', last.ofToken_token_cursor travel named, hnext⟩, fun met => ?_⟩
  -- The way back starts from the first row met there.
  cases further with
  | nil => exact absurd (by rw [nextTakes.items, List.take_nil, Travel.shown_nil]) met
  | cons first further =>
      have firstMatches := (stands.ranked.mem first).mp (by simp)
      have back : { selection with
          cursor := some (first.cursor cursor.field travel.opposite) }.cursor =
          some (first.cursor cursor.field travel.opposite) := rfl
      have aheadBack := stands.ahead_back_of_first
      rw [← Travel.along_opposite] at aheadBack
      obtain ⟨again, hagain, againTakes⟩ := Page.exists_list_ahead hqueries back
        beyond.toFilters hsize (db.readable first firstMatches.1) aheadBack
      have tokenBack : next.info.token travel.opposite =
          some (first.cursor cursor.field travel.opposite).token :=
        nextTakes.tokenBack_of_cons selection.size_pos
      refine ⟨again, ⟨_, _, tokenBack, first.ofToken_token_cursor travel.opposite named, hagain⟩,
        ?_⟩
      rw [againTakes.items, stands.take_back, ← Travel.shown_opposite]
      exact Travel.shown_shown travel.opposite page.items

theorem Database.ahead_twins :
    Database.twins.Ahead none "brand" .ascending (position "brand" (.twin .nil))
      [.twin ⟨1, by decide⟩, .twin ⟨2, by decide⟩] := by
  refine ⟨by decide, fun device => ⟨fun h => ?_, ?_⟩⟩
  · have cases : device = .twin ⟨1, by decide⟩ ∨ device = .twin ⟨2, by decide⟩ := by
      simpa using h
    rcases cases with rfl | rfl <;> exact ⟨⟨by decide, rfl⟩, rfl⟩
  · rintro ⟨⟨h, -⟩, -⟩
    simpa [twins, usual, or_comm] using h

/-- From the page of the one twin to that of the other and back, with pages of one row. -/
theorem return_shows_same_page_of_twin :
    ∃ page next again,
      Page.list Database.twins.queries Device.catalog
          (.single [] (some ((Device.twin .nil).cursor "brand" .next))) = pure page ∧
      page.items = [.twin ⟨1, by decide⟩] ∧
      page.LeadsTo Database.twins.queries
        (.single [] (some ((Device.twin .nil).cursor "brand" .next))) .next next ∧
      next.items = [.twin ⟨2, by decide⟩] ∧
      next.LeadsTo Database.twins.queries
        (.single [] (some ((Device.twin .nil).cursor "brand" .next))) .prev again ∧
      again.items = [.twin ⟨1, by decide⟩] := by
  have faithful := Database.twins.faithful_queries
  have start : (Selection.single [] (some ((Device.twin .nil).cursor "brand" .next))).cursor =
      some ((Device.twin .nil).cursor "brand" .next) := rfl
  have filters : Device.catalog.Filters none _ :=
    (Catalog.pagesBeyond_of_statement start rfl).toFilters
  -- The page behind no twin and the page behind the first one, by the rows ahead of each.
  obtain ⟨first, hfirst, firstTakes⟩ := Page.exists_list_ahead faithful start filters
    (by decide) (Device.readable_twin .nil) Database.ahead_twins
  obtain ⟨second, hsecond, secondTakes⟩ := Page.exists_list_ahead faithful
    (show (Selection.single [] (some ((Device.twin ⟨1, by decide⟩).cursor "brand" .next))).cursor =
      some ((Device.twin ⟨1, by decide⟩).cursor "brand" .next) from rfl) filters (by decide)
    (Device.readable_twin ⟨1, by decide⟩) (Database.ahead_twins.drop (n := 1) rfl)
  obtain ⟨page, hpage, leads⟩ := return_shows_same_page Database.twins faithful
    ((Device.twin .nil).ofToken_token_cursor .next (by decide)) start rfl (by decide)
  obtain rfl : page = first := Except.ok.inj (hpage.symm.trans hfirst)
  have token : page.info.token .next =
      some ((Device.twin ⟨1, by decide⟩).cursor "brand" .next).token := firstTakes.token
  obtain ⟨next, ⟨_, cursor, htoken, hcursor, hnext⟩, goesBack⟩ := leads .next (by simp [token])
  obtain rfl := Option.some.inj (token.symm.trans htoken)
  obtain rfl := Except.ok.inj
    (((Device.twin ⟨1, by decide⟩).ofToken_token_cursor .next (by decide)).symm.trans hcursor)
  obtain rfl : next = second := Except.ok.inj (hnext.symm.trans hsecond)
  have items : next.items = [.twin ⟨2, by decide⟩] := secondTakes.items
  obtain ⟨again, back, same⟩ := goesBack (by simp [items])
  exact ⟨page, next, again, hpage, firstTakes.items, ⟨_, _, htoken, hcursor, hnext⟩, items, back,
    same.trans firstTakes.items⟩

end Stockroom
