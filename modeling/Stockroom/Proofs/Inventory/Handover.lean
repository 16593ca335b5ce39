import Stockroom.Proofs.Inventory.Continuation

/-!
# From the first page to cursors

The first page of a selection is ordered by its sort keys, and the pages behind its
token by the first sort key and the identifier.  The two orders agree about rows
that differ in the column of the first sort key.  About rows that are tied in it
they may not agree, and then rows are lost or repeated.
-/

namespace Stockroom

open Database (position)

variable {db : Database} {queries : Queries Id} {selection : Selection} {statement : Statement}

/-! ## Ties -/

namespace Database

def Tied (db : Database) (column : String) (a b : Device) : Prop :=
  db.compareColumn column a b = .eq

def IdBefore (db : Database) (order : Order) (a b : Device) : Prop :=
  order.directed (db.compareColumn "id") a b = .lt

theorem directed_eq_iff_tied {column : String} {order : Order} {a b : Device} :
    order.directed (db.compareColumn column) a b = .eq ↔ db.Tied column a b := by
  cases order with
  | ascending => exact Iff.rfl
  | descending => exact Std.OrientedCmp.eq_comm

theorem precedes_iff {column : String} {order : Order} {a b : Device} :
    db.Precedes column order (position column a) (position column b) ↔
      order.directed (db.compareColumn column) a b = .lt ∨
        db.Tied column a b ∧ db.IdBefore order a b := by
  rw [← @directed_eq_iff_tied db column order]
  cases order with
  | ascending => exact Ordering.then_eq_lt
  | descending => exact Ordering.then_eq_lt

theorem precedes_iff_of_tied {column : String} {order : Order} {a b : Device}
    (h : db.Tied column a b) :
    db.Precedes column order (position column a) (position column b) ↔ db.IdBefore order a b := by
  rw [precedes_iff, @directed_eq_iff_tied db column order |>.mpr h]
  simp [h]

theorem directed_lt_of_not_tied {term : Sql.OrderTerm} {terms : List Sql.OrderTerm}
    {a b : Device} (h : (db.compareBy (term :: terms) a b).isLE)
    (htied : ¬db.Tied term.column a b) :
    term.order.directed (db.compareColumn term.column) a b = .lt := by
  rw [compareBy, compareLex] at h
  cases hcompare : term.order.directed (db.compareColumn term.column) a b with
  | lt => rfl
  | eq => exact absurd (directed_eq_iff_tied.mp hcompare) htied
  | gt =>
      rw [hcompare] at h
      cases h

/-- A row that is not tied with the last one taken was taken unless it comes behind it. -/
theorem mem_take_iff_of_not_tied {term : Sql.OrderTerm} {terms : List Sql.OrderTerm}
    {sorted : List Device} (hsorted : sorted.Pairwise fun a b =>
      (db.compareBy (term :: terms) a b).isLE) {n : Nat} {last device : Device}
    (hlast : (sorted.take n).getLast? = some last) (hdevice : device ∈ sorted)
    (htied : ¬db.Tied term.column last device) :
    device ∈ sorted.take n ↔
      ¬db.Precedes term.column term.order (position term.column last)
        (position term.column device) := by
  obtain ⟨before, behind⟩ := pairwise_around_last hsorted hlast
  rw [precedes_iff]
  -- What was taken is not behind the last one, and what was left is not in front of it.
  constructor
  · rintro taken (ahead | ⟨tied, -⟩)
    · rcases before device taken with rfl | earlier
      · exact htied Std.ReflCmp.compare_self
      · have swap : term.order.directed (db.compareColumn term.column) last device = .gt :=
          Std.OrientedCmp.gt_iff_lt.mpr (directed_lt_of_not_tied earlier fun tied =>
            htied (Std.OrientedCmp.eq_comm.mp tied))
        cases swap.symm.trans ahead
    · exact htied tied
  · intro notBehind
    rw [← List.take_append_drop n sorted] at hdevice
    rcases List.mem_append.mp hdevice with taken | left
    · exact taken
    · exact absurd (.inl (directed_lt_of_not_tied (behind device left) htied)) notBehind

end Database

/-! ## The first page and what lies behind it -/

theorem Selection.offset_eq_zero (hpage : selection.page = 1) : selection.offset = 0 := by
  rw [offset, hpage]
  simp

theorem Catalog.Pages.whereExpr_eq {catalog : Catalog} (h : catalog.Pages selection statement) :
    statement.whereExpr = statement.filterExpr := by
  have keyset : statement.keysetExpr = none := by
    rw [Statement.keysetExpr, h.window]
    rfl
  rw [Statement.whereExpr, keyset]
  cases statement.filterExpr <;> rfl

/-- The page is the front of the matching rows, ranked in an order that the terms permit. -/
structure Database.Opens (db : Database) (selection : Selection) (terms : List Sql.OrderTerm)
    (ranked : List Device) (page : Page) : Prop where
  nodup : ranked.Nodup
  mem : ∀ device, device ∈ ranked ↔ db.Matches selection.condition device
  sorted : ranked.Pairwise fun a b => (db.compareBy terms a b).isLE
  items : page.items = ranked.take selection.size.toNat
  token : page.info.nextCursor =
    if selection.size.toNat < ranked.length then
      (ranked.take selection.size.toNat).getLast?.map fun last =>
        (last.cursor selection.continuedSort .next).token
    else none

theorem Page.exists_list_first (hqueries : db.Faithful queries)
    (hcursor : selection.cursor = none) (hpage : selection.page = 1)
    (hstatement : Device.catalog.statement selection = .ok statement)
    (hsize : selection.size.toNat < UInt32.size - 1) :
    ∃ ranked page, Page.list queries Device.catalog selection = pure page ∧
      db.Opens selection statement.terms ranked page := by
  have pages := Catalog.pages_of_statement hcursor hstatement
  have plain := pages.plain Device.catalog_plain
  have lookAhead := pages.lookAhead_eq
  have offset : (selection.offset).toNat = 0 := by
    rw [Selection.offset_eq_zero hpage]
    rfl
  have limit : min (selection.size.toNat + (0 : UInt32).toNat) (UInt32.size - 1) =
      selection.size.toNat := by
    have zero : (0 : UInt32).toNat = 0 := rfl
    omega
  obtain ⟨ranked, hperm, hsorted, hfetch⟩ := hqueries.fetch_eq plain statement.lookAhead
  rw [pages.params, pages.whereExpr_eq] at hperm
  have total := hqueries.count_eq plain
  rw [← hperm.length_eq] at total
  rw [lookAhead, pages.window] at hfetch
  simp only [Option.map_some, Option.getD_some, offset, List.drop_zero, limit] at hfetch
  rw [← lookAhead] at hfetch
  obtain ⟨items, tokens⟩ := Page.assemble_numbered hcursor pages ranked.length
    (ranked.take selection.size.toNat)
  have kept : (ranked.take selection.size.toNat).take selection.size.toNat =
      ranked.take selection.size.toNat := by
    rw [List.take_take, Nat.min_self]
  have more : (PageInfo.ofTotal selection.page selection.size ranked.length).goesOn .next = true ↔
      selection.size.toNat < ranked.length := by
    have few : ranked.length < 2 ^ 62 := hperm.length_eq ▸ db.length_matching_lt _ _
    have bound := selection.size.toNat_lt
    rw [hpage, PageInfo.goesOn, PageInfo.ofTotal, decide_eq_true_iff]
    exact PageInfo.one_lt_pageCount_iff (by omega) selection.size_pos
  refine ⟨ranked, _, Page.list_eq hstatement total hfetch,
    hperm.nodup_iff.mpr (db.nodup_matching _ _), ?_, hsorted, ?_, ?_⟩
  · intro device
    rw [hperm.mem_iff, Database.mem_matching_filter pages.toFilters]
  · rw [items, kept]
  · have token := tokens .next
    simp only [more, Travel.shown, kept] at token
    exact token

/-- Behind a row a walk takes the rows ahead in the order of the leading term. -/
theorem exists_walk_behind (hqueries : db.Faithful queries) (hcursor : selection.cursor = none)
    (hstable : ∀ key ∈ selection.primary?, key.Stable)
    (hstatement : Device.catalog.statement selection = .ok statement)
    (hsize : selection.size.toNat < UInt32.size - 1) {last : Device} (hlast : last.Readable) :
    Cursor.ofToken (last.cursor selection.continuedSort .next).token =
        .ok (last.cursor selection.continuedSort .next) ∧
      ∃ pages, Walk queries .next
          { selection with cursor := some (last.cursor selection.continuedSort .next) } pages ∧
        db.Ahead selection.condition selection.leading.column selection.leading.order
          (position selection.leading.column last) (pages.flatMap Page.items) := by
  obtain ⟨hfield, hleading⟩ := (Selection.stable_primary_iff hcursor).mp hstable
  have filters := (Catalog.pages_of_statement hcursor hstatement).toFilters
  rw [Selection.continuedKey] at hfield hleading
  rw [← hleading]
  generalize selection.continuedSort = sort at hfield
  have named : (last.cursor sort .next).sortKey.field ≠ "" := hfield
  have continued : { selection with cursor := some (last.cursor sort .next) }.cursor =
      some (last.cursor sort .next) := rfl
  obtain ⟨rest, ahead⟩ := db.exists_ahead selection.condition
    (Device.catalog.resolve (last.cursor sort .next).sortKey.field).name
    (Catalog.travelOrder (last.cursor sort .next))
    (position (Device.catalog.resolve (SortKey.parse sort).field).name last)
  obtain ⟨pages, walk, hpages⟩ := exists_walk_beyond hqueries continued named filters hsize
    (Device.continues_cursor hlast sort .next) ahead
  have items : pages.flatMap Page.items = rest := hpages
  refine ⟨last.ofToken_token_cursor .next hfield, pages, walk, ?_⟩
  rw [items]
  exact ahead

/-! ## Handing over -/

theorem count_append_eq_one_iff {front rest : List Device} (hfront : front.Nodup)
    (hrest : rest.Nodup) (device : Device) :
    (front ++ rest).count device = 1 ↔ (device ∈ front ↔ device ∉ rest) := by
  rw [List.count_append, hfront.count, hrest.count]
  by_cases inFront : device ∈ front <;> by_cases inRest : device ∈ rest <;> simp [inFront, inRest]

theorem Database.Opens.count_eq_one_iff {term : Sql.OrderTerm} {terms : List Sql.OrderTerm}
    {ranked rest : List Device} {first : Page}
    (opens : db.Opens selection (term :: terms) ranked first) {last : Device}
    (hlast : first.items.getLast? = some last)
    (ahead : db.Ahead selection.condition term.column term.order (position term.column last) rest)
    {device : Device} (hdevice : db.Matches selection.condition device) :
    (first.items ++ rest).count device = 1 ↔
      (db.Tied term.column last device →
        (device ∈ first.items ↔ ¬db.IdBefore term.order last device)) := by
  rw [opens.items] at hlast ⊢
  have left : device ∉ rest ↔ ¬db.Precedes term.column term.order (position term.column last)
      (position term.column device) := by
    rw [ahead.mem, and_iff_right hdevice]
  rw [count_append_eq_one_iff (opens.nodup.sublist (List.take_sublist _ _)) ahead.nodup, left]
  by_cases tied : db.Tied term.column last device
  · rw [precedes_iff_of_tied tied]
    exact ⟨fun h _ => h, fun h => h tied⟩
  · have taken := mem_take_iff_of_not_tied opens.sorted hlast ((opens.mem device).mpr hdevice) tied
    exact iff_of_true taken fun h => absurd h tied

theorem Database.Opens.exists_last {terms : List Sql.OrderTerm} {ranked : List Device}
    {first : Page} (opens : db.Opens selection terms ranked first)
    (more : selection.size.toNat < ranked.length) :
    ∃ last, first.items.getLast? = some last ∧
      first.info.nextCursor = some (last.cursor selection.continuedSort .next).token ∧
      last.Readable := by
  have sizePos : 0 < selection.size.toNat := selection.size_pos
  obtain ⟨last, hlast⟩ := exists_getLast?_take sizePos more
  have matching := (opens.mem last).mp (List.mem_of_mem_take (List.mem_of_getLast? hlast))
  refine ⟨last, ?_, ?_, db.readable last matching.1⟩
  · rw [opens.items, hlast]
  · rw [opens.token, if_pos more, hlast, Option.map_some]

/--
The walk from the first page of a selection shows matching rows only.  It shows
each of them exactly once if and only if the first page has no token, or the rows
that are tied with its last one in the leading column are on the page up to the
identifier of that row and not beyond.
-/
theorem handover_shows_once_iff (db : Database) {queries : Queries Id}
    (hqueries : db.Faithful queries) {selection : Selection} (hcursor : selection.cursor = none)
    (hpage : selection.page = 1)
    (hregistered : ∀ key ∈ selection.sorting, (Device.catalog.column? key.field).isSome)
    {statement : Statement} (hstatement : Device.catalog.statement selection = .ok statement)
    (hsize : selection.size.toNat < UInt32.size - 1) :
    ∃ first pages, (∀ others, Walk queries .next selection others ↔ others = first :: pages) ∧
      (∀ device ∈ (first :: pages).flatMap Page.items, db.Matches selection.condition device) ∧
      ((∀ device, db.Matches selection.condition device →
          ((first :: pages).flatMap Page.items).count device = 1) ↔
        (first.info.nextCursor ≠ none → ∀ last, first.items.getLast? = some last →
          ∀ device, db.Matches selection.condition device →
            db.Tied selection.leading.column last device →
              (device ∈ first.items ↔ ¬db.IdBefore selection.leading.order last device))) := by
  obtain ⟨ranked, first, hfirst, opens⟩ :=
    Page.exists_list_first hqueries hcursor hpage hstatement hsize
  have taken : ∀ device ∈ first.items, db.Matches selection.condition device := by
    intro device hdevice
    rw [opens.items] at hdevice
    exact (opens.mem device).mp (List.mem_of_mem_take hdevice)
  by_cases more : selection.size.toNat < ranked.length
  -- Rows are left behind the first page, which a walk from its last row takes.
  · obtain ⟨last, hlast, token, readable⟩ := opens.exists_last more
    have stable : ∀ key ∈ selection.primary?, key.Stable := by
      intro key hkey
      exact SortKey.stable_of_registered (hregistered key (List.mem_of_head? hkey))
    obtain ⟨accepted, pages, walk, ahead⟩ :=
      exists_walk_behind hqueries hcursor stable hstatement hsize readable
    have whole : Walk queries .next selection (first :: pages) :=
      .step hfirst token accepted walk
    obtain ⟨terms, leading⟩ : ∃ terms, statement.terms = selection.leading :: terms := by
      rw [(Catalog.pages_of_statement hcursor hstatement).terms]
      exact List.head?_eq_some_iff.mp selection.head?_sortTerms
    rw [leading] at opens
    refine ⟨first, pages, fun others => ⟨fun h => h.unique whole, fun h => h ▸ whole⟩, ?_, ?_⟩
    · intro device hdevice
      rw [List.flatMap_cons] at hdevice
      rcases List.mem_append.mp hdevice with onFirst | behind
      · exact taken device onFirst
      · exact ((ahead.mem device).mp behind).1
    · rw [List.flatMap_cons]
      constructor
      · intro once _ last' hlast' device hdevice
        exact (opens.count_eq_one_iff hlast' (Option.some.inj (hlast.symm.trans hlast') ▸ ahead)
          hdevice).mp (once device hdevice)
      · intro cut device hdevice
        have some : first.info.nextCursor ≠ none := by simp [token]
        exact (opens.count_eq_one_iff hlast ahead hdevice).mpr (cut some last hlast device hdevice)
  -- The first page has all of the rows.
  · have token : first.info.nextCursor = none := by
      rw [opens.token, if_neg more]
    have whole : Walk queries .next selection [first] := .last hfirst token
    refine ⟨first, [], fun others => ⟨fun h => h.unique whole, fun h => h ▸ whole⟩, ?_, ?_⟩
    · simpa using taken
    · refine iff_of_true (fun device hdevice => ?_) fun h => absurd token h
      rw [List.flatMap_cons, List.flatMap_nil, List.append_nil, opens.items,
        List.take_of_length_le (Nat.le_of_not_lt more), opens.nodup.count,
        if_pos ((opens.mem device).mpr hdevice)]

/-- In the order of the identifier no other row is tied with the last one of a page. -/
theorem handover_shows_once_by_id :
    ∃ first pages, Walk Database.twins.queries .next (.single [⟨"id", .ascending⟩] none)
        (first :: pages) ∧
      ∀ device ∈ Database.twins.rows, ((first :: pages).flatMap Page.items).count device = 1 := by
  have registered : ∀ key ∈ (Selection.single [⟨"id", .ascending⟩] none).sorting,
      (Device.catalog.column? key.field).isSome := by
    decide
  obtain ⟨first, pages, walks, matching, once⟩ := handover_shows_once_iff Database.twins
    Database.twins.faithful_queries rfl rfl registered rfl (by decide)
  refine ⟨first, pages, (walks _).mpr rfl, fun device hdevice => once.mpr ?_ device ⟨hdevice, rfl⟩⟩
  intro _ last hlast device hdevice tied
  have onFirst : last ∈ first.items := List.mem_of_getLast? hlast
  have inTable : last ∈ Database.twins.rows := (matching last (by simp [onFirst])).1
  obtain rfl : last = device :=
    Database.eq_of_id_eq inTable hdevice.1 (Database.twins.different _ _ tied)
  refine iff_of_true onFirst fun before => ?_
  have same : Database.twins.compareColumn "id" last last = .eq := Std.ReflCmp.compare_self
  cases same.symm.trans before

/-- In the order of the brand the twin with the smaller identifier is lost behind the other. -/
theorem handover_loses_twin_by_brand :
    Database.twins.Faithful Database.twins.queries ∧
      Device.twin ⟨1, by decide⟩ ∈ Database.twins.rows ∧
      ∃ pages, Walk Database.twins.queries .next (.single [⟨"brand", .ascending⟩] none) pages ∧
        (pages.flatMap Page.items).count (.twin ⟨1, by decide⟩) = 0 := by
  have faithful := Database.twins.faithful_queries
  refine ⟨faithful, by simp [Database.twins, Database.usual], ?_⟩
  obtain ⟨statement, hstatement, hparams, hwhere, hterms, hwindow⟩ : ∃ statement,
      Device.catalog.statement (.single [⟨"brand", .ascending⟩] none) = .ok statement ∧
        statement.params = [] ∧ statement.whereExpr = none ∧
        statement.terms = [⟨"brand", .ascending⟩] ∧ statement.window = ⟨1, some 0, none⟩ :=
    ⟨_, rfl, rfl, rfl, rfl, rfl⟩
  have pages := Catalog.pages_of_statement rfl hstatement
  have plain := pages.plain Device.catalog_plain
  -- The rows are tied, so the table may be answered as it is.
  have rows : Database.twins.matching [] none = Database.twins.rows := rfl
  have unmoved : Database.twins.rows.mergeSort (fun a b =>
      (Database.twins.compareBy [⟨"brand", .ascending⟩] a b).isLE) = Database.twins.rows :=
    List.mergeSort_of_pairwise (by decide)
  have fetch : Database.twins.queries.fetch statement statement.lookAhead =
      pure [.twin ⟨2, by decide⟩] := by
    rw [Database.twins.fetch_queries (plain.reads_devices _), Database.answer, hwhere, hterms,
      hwindow, hparams, rows, unmoved, pages.lookAhead_eq]
    rfl
  have count : Database.twins.queries.count statement = pure 2 := by
    rw [faithful.count_eq plain, ← pages.params, ← pages.whereExpr_eq, hparams, hwhere]
    rfl
  obtain ⟨items, tokens⟩ := Page.assemble_numbered rfl pages 2 [.twin ⟨2, by decide⟩]
  have stable : ∀ key ∈ (Selection.single [⟨"brand", .ascending⟩] none).primary?, key.Stable := by
    intro key hkey
    obtain rfl := Option.some.inj hkey
    exact SortKey.stable_of_registered (by decide)
  obtain ⟨accepted, behind, walk, ahead⟩ := exists_walk_behind faithful rfl stable hstatement
    (by decide) (Device.readable_twin ⟨2, by decide⟩)
  refine ⟨_, .step (Page.list_eq hstatement count fetch) (tokens .next) accepted walk, ?_⟩
  rw [List.flatMap_cons, items]
  refine List.count_eq_zero.mpr fun shown => ?_
  rcases List.mem_append.mp shown with onFirst | later
  · exact absurd onFirst (by decide)
  · have before : Ordering.gt = .lt := ((ahead.mem _).mp later).2
    cases before

end Stockroom
