import Stockroom.Proofs.Database.Keyset

/-!
# Walking the pages

A walk asks for the page of a selection and follows its token on one side until a
page has none.  Each page takes a front of the rows that are still ahead, and its
token leaves the last row taken, so a walk takes all of them.
-/

namespace Stockroom

open Database (position)

def PageInfo.token (info : PageInfo) : Travel → Option String
  | .next => info.nextCursor
  | .prev => info.previousCursor

namespace Travel

def opposite : Travel → Travel
  | .next => .prev
  | .prev => .next

/-- What is met in the direction of travel, in the order in which it is shown. -/
def shown {α : Type} (items : List α) : Travel → List α
  | .next => items
  | .prev => items.reverse

/-- The items of the pages of a walk, in the order in which the list shows them. -/
def joined (pages : List Page) : Travel → List Device
  | .next => pages.flatMap Page.items
  | .prev => pages.reverse.flatMap Page.items

@[simp] theorem shown_shown {α : Type} (travel : Travel) (items : List α) :
    travel.shown (travel.shown items) = items := by
  cases travel <;> simp [shown]

theorem joined_eq (travel : Travel) (pages : List Page) :
    travel.joined pages = travel.shown (pages.flatMap fun page => travel.shown page.items) := by
  cases travel with
  | next => rfl
  | prev => simp [joined, shown, List.reverse_flatMap, Function.comp_def]

end Travel

variable {db : Database} {queries : Queries Id} {selection : Selection} {statement : Statement}
  {cursor : Cursor}

theorem Page.list_eq {m : Type → Type} [Monad m] [LawfulMonad m] {queries : Queries m}
    {catalog : Catalog} (hstatement : catalog.statement selection = .ok statement) {total : Int}
    {rows : List Device} (hcount : queries.count statement = pure total)
    (hfetch : queries.fetch statement statement.lookAhead = pure rows) :
    Page.list queries catalog selection = pure (assemble selection statement total rows) := by
  rw [Page.list, hstatement]
  simp only [hcount, hfetch, pure_bind]

theorem Database.Faithful.count_eq (h : db.Faithful queries) (hplain : statement.Plain) :
    queries.count statement =
      pure ((db.matching statement.filterParams statement.filterExpr).length : Int) :=
  h.count statement _ (hplain.reads_count (by decide))

theorem Catalog.Pages.lookAhead_eq {catalog : Catalog} (h : catalog.Pages selection statement) :
    statement.lookAhead = 0 := by
  rw [Statement.lookAhead, Statement.isKeyset, h.window]
  rfl

theorem Catalog.PagesBeyond.lookAhead_eq {catalog : Catalog}
    (h : catalog.PagesBeyond selection cursor statement) : statement.lookAhead = 1 := by
  rw [Statement.lookAhead, Statement.isKeyset, h.window]
  rfl

theorem Catalog.PagesBeyond.reversed_eq {catalog : Catalog}
    (h : catalog.PagesBeyond selection cursor statement) :
    statement.reversed = decide (cursor.travel = .prev) := by
  rw [Statement.reversed, h.window]
  rfl

theorem Statement.Plain.reads_devices (h : statement.Plain) (extra : UInt32) :
    Sql.ReadsSelect (statement.rowsText Device.tableName (", ".intercalate Device.columnNames)
        extra)
      ⟨Device.columnNames, Device.tableName, statement.whereExpr, statement.terms,
        min (statement.window.limit.toNat + extra.toNat) (UInt32.size - 1),
        statement.window.offset.map UInt64.toNat⟩ :=
  h.reads_rows (by decide) (List.cons_ne_nil _ _) (by decide) extra

theorem Database.Faithful.fetch_eq (h : db.Faithful queries) (hplain : statement.Plain)
    (extra : UInt32) :
    ∃ sorted : List Device, sorted.Perm (db.matching statement.params statement.whereExpr) ∧
      sorted.Pairwise (fun a b => (db.compareBy statement.terms a b).isLE) ∧
      queries.fetch statement extra =
        pure ((sorted.drop ((statement.window.offset.map UInt64.toNat).getD 0)).take
          (min (statement.window.limit.toNat + extra.toNat) (UInt32.size - 1))) := by
  obtain ⟨rows, ⟨sorted, hperm, hsorted, rfl⟩, hfetch⟩ :=
    h.fetch statement extra _ (hplain.reads_devices extra)
  exact ⟨sorted, hperm, hsorted, hfetch⟩

/-! ## One page behind a cursor -/

namespace Page

/--
The page takes a front of the rows ahead.  Its token in the direction of travel
leaves the last row taken, if there are more; the token back leaves the first.
-/
structure Takes (page : Page) (cursor : Cursor) (size : Nat) (rest : List Device) : Prop where
  items : page.items = cursor.travel.shown (rest.take size)
  token : page.info.token cursor.travel =
    if size < rest.length then
      (rest.take size).getLast?.map fun last => (last.cursor cursor.field cursor.travel).token
    else none
  tokenBack : page.info.token cursor.travel.opposite =
    (rest.take size).head?.map fun first =>
      (first.cursor cursor.field cursor.travel.opposite).token

theorem takes_assemble (hcursor : selection.cursor = some cursor)
    (hstatement : Device.catalog.PagesBeyond selection cursor statement) (total : Int)
    (rest : List Device) :
    (assemble selection statement total (rest.take (selection.size.toNat + 1))).Takes cursor
      selection.size.toNat rest := by
  have reversed := hstatement.reversed_eq
  have more : selection.size.toNat < (rest.take (selection.size.toNat + 1)).length ↔
      selection.size.toNat < rest.length := by
    rw [List.length_take]
    omega
  have kept : (rest.take (selection.size.toNat + 1)).take selection.size.toNat =
      rest.take selection.size.toNat := by
    rw [List.take_take, Nat.min_eq_left (Nat.le_succ _)]
  constructor
  · simp only [assemble, Statement.shownRows, reversed, kept]
    cases cursor.travel <;> rfl
  · simp only [assemble, Statement.shownRows, reversed, kept, Selection.sides, hcursor,
      Selection.continuedSort, more]
    cases htravel : cursor.travel with
    | next => simp [PageInfo.token, htravel]
    | prev => simp [PageInfo.token, htravel]
  · simp only [assemble, Statement.shownRows, reversed, kept, Selection.sides, hcursor,
      Selection.continuedSort]
    cases htravel : cursor.travel with
    | next => simp [PageInfo.token, Travel.opposite, htravel]
    | prev => simp [PageInfo.token, Travel.opposite, htravel]

/-- Of the rows ahead of a cursor one more than the page holds is fetched. -/
theorem exists_list_rows_beyond (hqueries : db.Faithful queries)
    (hcursor : selection.cursor = some cursor)
    (hstatement : Device.catalog.statement selection = .ok statement)
    (hsize : selection.size.toNat < UInt32.size - 1) {value id : Value}
    (hcontinues : Device.catalog.Continues cursor value id) {rest : List Device}
    (ahead : db.Ahead selection.condition (Device.catalog.resolve cursor.sortKey.field).name
      (Catalog.travelOrder cursor) (value, id) rest) :
    ∃ total, Page.list queries Device.catalog selection =
      pure (assemble selection statement total (rest.take (selection.size.toNat + 1))) := by
  have beyond := Catalog.pagesBeyond_of_statement hcursor hstatement
  have plain := beyond.plain Device.catalog_plain
  have lookAhead := beyond.lookAhead_eq
  obtain ⟨sorted, hperm, hsorted, hfetch⟩ := hqueries.fetch_eq plain statement.lookAhead
  have matching : ∀ device, device ∈ db.matching statement.params statement.whereExpr ↔
      db.Matches selection.condition device ∧
        db.Precedes (Device.catalog.resolve cursor.sortKey.field).name
          (Catalog.travelOrder cursor) (value, id)
          (position (Device.catalog.resolve cursor.sortKey.field).name device) := by
    obtain ⟨value', id', continues', matching⟩ := Database.mem_matching_where beyond
    obtain rfl : value' = value := Except.ok.inj (continues'.value.symm.trans hcontinues.value)
    obtain rfl : id' = id := Except.ok.inj (continues'.id.symm.trans hcontinues.id)
    exact matching
  have rows : sorted = rest := by
    have terms : statement.terms =
        Catalog.keysetTerms (Device.catalog.resolve cursor.sortKey.field).name "id"
          (Catalog.travelOrder cursor) := beyond.terms
    rw [terms] at hsorted
    exact ahead.eq_of_perm (db.nodup_matching _ _) matching hperm hsorted
  have limit : min (selection.size.toNat + (1 : UInt32).toNat) (UInt32.size - 1) =
      selection.size.toNat + 1 := by
    have one : (1 : UInt32).toNat = 1 := rfl
    omega
  rw [rows, lookAhead, beyond.window] at hfetch
  simp only [Option.map_none, Option.getD_none, List.drop_zero, limit] at hfetch
  rw [← lookAhead] at hfetch
  exact ⟨_, list_eq hstatement (hqueries.count_eq plain) hfetch⟩

theorem exists_list_beyond (hqueries : db.Faithful queries)
    (hcursor : selection.cursor = some cursor)
    (hstatement : Device.catalog.statement selection = .ok statement)
    (hsize : selection.size.toNat < UInt32.size - 1) {value id : Value}
    (hcontinues : Device.catalog.Continues cursor value id) {rest : List Device}
    (ahead : db.Ahead selection.condition (Device.catalog.resolve cursor.sortKey.field).name
      (Catalog.travelOrder cursor) (value, id) rest) :
    ∃ page, Page.list queries Device.catalog selection = pure page ∧
      page.Takes cursor selection.size.toNat rest := by
  obtain ⟨total, hpage⟩ :=
    exists_list_rows_beyond hqueries hcursor hstatement hsize hcontinues ahead
  have beyond := Catalog.pagesBeyond_of_statement hcursor hstatement
  exact ⟨_, hpage, takes_assemble hcursor beyond total rest⟩

end Page

/-! ## Walks -/

/-- The pages met from the page of a selection on, by following the tokens on one side. -/
inductive Walk (queries : Queries Id) (travel : Travel) : Selection → List Page → Prop where
  | last {selection : Selection} {page : Page}
      (hpage : Page.list queries Device.catalog selection = pure page)
      (hlast : page.info.token travel = none) : Walk queries travel selection [page]
  | step {selection : Selection} {page : Page} {token : String} {cursor : Cursor}
      {pages : List Page} (hpage : Page.list queries Device.catalog selection = pure page)
      (htoken : page.info.token travel = some token)
      (hcursor : Cursor.ofToken token = .ok cursor)
      (rest : Walk queries travel { selection with cursor := some cursor } pages) :
      Walk queries travel selection (page :: pages)

theorem Walk.unique {travel : Travel} {pages others : List Page}
    (h : Walk queries travel selection pages) (hothers : Walk queries travel selection others) :
    pages = others := by
  -- What is asked determines the page, the page its token, and the token what is asked next.
  have pageUnique : ∀ {selection : Selection} {a b : Page},
      Page.list queries Device.catalog selection = pure a →
        Page.list queries Device.catalog selection = pure b → a = b := by
    intro selection a b ha hb
    exact Except.ok.inj (ha.symm.trans hb)
  induction h generalizing others with
  | last hpage hlast =>
      cases hothers with
      | last hpage' _ => rw [pageUnique hpage hpage']
      | step hpage' htoken' _ _ =>
          rw [pageUnique hpage hpage', htoken'] at hlast
          cases hlast
  | step hpage htoken hcursor rest ih =>
      cases hothers with
      | last hpage' hlast' =>
          rw [← pageUnique hpage hpage', htoken] at hlast'
          cases hlast'
      | step hpage' htoken' hcursor' rest' =>
          obtain rfl := pageUnique hpage hpage'
          obtain rfl := Option.some.inj (htoken.symm.trans htoken')
          obtain rfl := Except.ok.inj (hcursor.symm.trans hcursor')
          rw [ih rest']

theorem Device.continues_cursor {device : Device} (h : device.Readable) (sort : String)
    (travel : Travel) :
    catalog.Continues (device.cursor sort travel)
      (device.columnValue (catalog.resolve (SortKey.parse sort).field).name)
      (device.columnValue "id") :=
  ⟨Device.readValue_cursor h sort travel, device.readId_cursor sort travel⟩

theorem exists_walk_beyond (hqueries : db.Faithful queries)
    (hcursor : selection.cursor = some cursor) (hfield : cursor.sortKey.field ≠ "")
    (hfilters : Device.catalog.Filters selection.condition statement)
    (hsize : selection.size.toNat < UInt32.size - 1) {value id : Value}
    (hcontinues : Device.catalog.Continues cursor value id) {rest : List Device}
    (ahead : db.Ahead selection.condition (Device.catalog.resolve cursor.sortKey.field).name
      (Catalog.travelOrder cursor) (value, id) rest) :
    ∃ pages, Walk queries cursor.travel selection pages ∧
      (pages.flatMap fun page => cursor.travel.shown page.items) = rest := by
  -- Every page takes at least one row, so fewer rows are ahead of the next one.
  induction hlength : rest.length using Nat.strong_induction_on
    generalizing selection cursor value id rest with
  | _ length ih =>
      obtain ⟨next, hnext⟩ := Catalog.exists_statement_of_continues hfilters hcursor hcontinues
      obtain ⟨page, hpage, takes⟩ :=
        Page.exists_list_beyond hqueries hcursor hnext hsize hcontinues ahead
      have hitems := takes.items
      have htoken := takes.token
      by_cases more : selection.size.toNat < rest.length
      · have sizePos : 0 < selection.size.toNat := selection.size_pos
        obtain ⟨last, hlast⟩ := exists_getLast?_take sizePos more
        have lastMem : last ∈ rest := List.mem_of_mem_take (List.mem_of_getLast? hlast)
        have readable := db.readable last ((ahead.mem last).mp lastMem).1.1
        have shorter : (rest.drop selection.size.toNat).length < length := by
          rw [List.length_drop]
          omega
        rw [if_pos more, hlast] at htoken
        have continued : { selection with
            cursor := some (last.cursor cursor.field cursor.travel) }.cursor =
            some (last.cursor cursor.field cursor.travel) := rfl
        obtain ⟨pages, walk, hpages⟩ := ih _ shorter continued hfield hfilters hsize
          (Device.continues_cursor readable cursor.field cursor.travel) (ahead.drop hlast) rfl
        refine ⟨page :: pages, .step hpage htoken
          (last.ofToken_token_cursor cursor.travel hfield) walk, ?_⟩
        have remaining : (pages.flatMap fun page => cursor.travel.shown page.items) =
            rest.drop selection.size.toNat := hpages
        rw [List.flatMap_cons, remaining, hitems, Travel.shown_shown, List.take_append_drop]
      · rw [if_neg more] at htoken
        refine ⟨[page], .last hpage htoken, ?_⟩
        rw [List.flatMap_cons, List.flatMap_nil, List.append_nil, hitems, Travel.shown_shown,
          List.take_of_length_le (Nat.le_of_not_lt more)]

/-! ## The rows of a walk -/

/--
A walk from a cursor that is accepted loses and repeats nothing.  It ends, and
its pages together show the matching rows strictly beyond the boundary row, in the
order of the sort key of the cursor and the identifier, each of them once.
-/
theorem walk_beyond_cursor (db : Database) {queries : Queries Id}
    (hqueries : db.Faithful queries) {token : String} {cursor : Cursor}
    (htoken : Cursor.ofToken token = .ok cursor) {value id : Value}
    (hcontinues : Device.catalog.Continues cursor value id) {selection : Selection}
    (hcursor : selection.cursor = some cursor) {filtered : Statement}
    (hfilter : Device.catalog.statement { selection with cursor := none } = .ok filtered)
    (hsize : selection.size.toNat < UInt32.size - 1) :
    ∃ pages, (∀ others, Walk queries cursor.travel selection others ↔ others = pages) ∧
      (cursor.travel.joined pages).Pairwise (fun a b =>
        db.Precedes (Device.catalog.resolve cursor.sortKey.field).name cursor.sortKey.order
          (position (Device.catalog.resolve cursor.sortKey.field).name a)
          (position (Device.catalog.resolve cursor.sortKey.field).name b)) ∧
      ∀ device, device ∈ cursor.travel.joined pages ↔
        db.Matches selection.condition device ∧
          match cursor.travel with
          | .next =>
              db.Precedes (Device.catalog.resolve cursor.sortKey.field).name
                cursor.sortKey.order (value, id)
                (position (Device.catalog.resolve cursor.sortKey.field).name device)
          | .prev =>
              db.Precedes (Device.catalog.resolve cursor.sortKey.field).name
                cursor.sortKey.order
                (position (Device.catalog.resolve cursor.sortKey.field).name device)
                (value, id) := by
  obtain ⟨rest, ahead⟩ := db.exists_ahead selection.condition
    (Device.catalog.resolve cursor.sortKey.field).name (Catalog.travelOrder cursor) (value, id)
  have filters : Device.catalog.Filters selection.condition filtered :=
    (Catalog.pages_of_statement rfl hfilter).toFilters
  obtain ⟨pages, walk, taken⟩ := exists_walk_beyond hqueries hcursor
    (Cursor.field_ne_empty_of_ofToken htoken) filters hsize hcontinues ahead
  have joined : cursor.travel.joined pages = cursor.travel.shown rest := by
    rw [Travel.joined_eq, taken]
  refine ⟨pages, fun others => ⟨fun h => h.unique walk, fun h => h ▸ walk⟩, ?_, ?_⟩
  · rw [joined]
    have sorted := ahead.sorted
    rw [Catalog.travelOrder] at sorted
    cases htravel : cursor.travel with
    | next => simpa [Travel.shown, htravel] using sorted
    | prev =>
        rw [Travel.shown, List.pairwise_reverse]
        simpa [htravel, Database.precedes_reverse] using sorted
  · intro device
    have mem := ahead.mem device
    rw [Catalog.travelOrder] at mem
    rw [joined]
    cases htravel : cursor.travel with
    | next => simpa [Travel.shown, htravel] using mem
    | prev => simpa [Travel.shown, htravel, Database.precedes_reverse] using mem

/-- Pages of one row, without a filter. -/
def Selection.single (sorting : List SortKey) (cursor : Option Cursor) : Selection where
  condition := none
  sorting
  page := 1
  size := 1
  fields := []
  cursor
  page_pos := by decide
  size_pos := by decide

/-- Behind a twin with a smaller identifier, pages of one row show both twins of the table. -/
theorem walk_beyond_cursor_of_twin :
    ∃ pages, Walk Database.twins.queries .next
        (.single [] (some ((Device.twin .nil).cursor "brand" .next))) pages ∧
      (Travel.next.joined pages).Perm Database.twins.rows := by
  obtain ⟨pages, walks, sorted, mem⟩ := walk_beyond_cursor Database.twins
    Database.twins.faithful_queries
    ((Device.twin .nil).ofToken_token_cursor .next (by decide))
    (Device.continues_cursor (Device.readable_twin .nil) "brand" .next)
    (show (Selection.single [] (some ((Device.twin .nil).cursor "brand" .next))).cursor =
      some ((Device.twin .nil).cursor "brand" .next) from rfl)
    rfl (by decide)
  refine ⟨pages, (walks pages).mpr rfl, ?_⟩
  have nodup : (Travel.next.joined pages).Nodup := by
    refine sorted.imp fun {a b} hab heq => ?_
    subst heq
    exact Database.Precedes.irrefl _ hab
  have distinct : Database.twins.rows.Nodup :=
    Database.twins.distinct.imp fun hid heq => hid (congrArg Device.id heq)
  refine (List.perm_ext_iff_of_nodup nodup distinct).mpr fun device => ?_
  refine (mem device).trans ⟨fun h => h.1.1, fun h => ⟨⟨h, rfl⟩, ?_⟩⟩
  have cases : device = .twin ⟨2, by decide⟩ ∨ device = .twin ⟨1, by decide⟩ := by
    simpa [Database.twins, Database.usual] using h
  rcases cases with rfl | rfl <;> rfl

end Stockroom
