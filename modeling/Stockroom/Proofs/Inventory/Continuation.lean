import Stockroom.Proofs.Inventory.Walk
import Stockroom.Proofs.Inventory.Windows
import Stockroom.Proofs.Query.SortKey

/-!
# Tokens of numbered pages

A page that is asked for by its number carries tokens on both sides as well.  They
keep the first sort key as a signed text, so they continue the order of the page
exactly when the key is found again in its text.
-/

namespace Stockroom

variable {selection : Selection} {statement : Statement}

/-! ## The leading term -/

namespace Selection

/-- The term that orders a numbered page first. -/
def leading (selection : Selection) : Sql.OrderTerm :=
  match selection.primary? with
  | some key => ⟨(Device.catalog.resolve key.field).name, key.order⟩
  | none => ⟨Device.catalog.fallback.name, .descending⟩

theorem head?_sortTerms (selection : Selection) :
    (Device.catalog.sortTerms selection.sorting).head? = some selection.leading := by
  unfold Catalog.sortTerms leading primary?
  cases selection.sorting with
  | nil => rfl
  | cons key keys => rfl

def continuedKey (selection : Selection) : SortKey := SortKey.parse selection.continuedSort

theorem stable_primary_iff (hcursor : selection.cursor = none) :
    (∀ key ∈ selection.primary?, key.Stable) ↔
      selection.continuedKey.field ≠ "" ∧
        (⟨(Device.catalog.resolve selection.continuedKey.field).name,
          selection.continuedKey.order⟩ : Sql.OrderTerm) = selection.leading := by
  unfold continuedKey continuedSort leading
  rw [hcursor]
  cases selection.primary? with
  | none =>
      constructor
      · intro _
        decide
      · intro _ key hkey
        cases hkey
  | some key =>
      simp only [Option.mem_def, Option.some.injEq, forall_eq', Option.map_some, Option.getD_some,
        Sql.OrderTerm.mk.injEq]
      constructor
      · intro h
        exact ⟨h.field, h.column, h.order⟩
      · rintro ⟨hfield, hcolumn, horder⟩
        exact ⟨hfield, hcolumn, horder⟩

end Selection

/-! ## What a token continues -/

def Sql.OrderTerm.toward (term : Sql.OrderTerm) (travel : Travel) : Sql.OrderTerm :=
  { term with order := if travel = .next then term.order else term.order.reverse }

theorem Sql.OrderTerm.toward_inj {a b : Sql.OrderTerm} {travel : Travel} :
    a.toward travel = b.toward travel ↔ a = b := by
  obtain ⟨column, order⟩ := a
  obtain ⟨column', order'⟩ := b
  cases travel <;> cases order <;> cases order' <;> simp [toward, Order.reverse]

theorem Catalog.head?_keysetTerms (column id : String) (order : Order) :
    (keysetTerms column id order).head? = some ⟨column, order⟩ := by
  unfold keysetTerms
  split
  next h => rw [h]; rfl
  next => rfl

/--
The token is accepted, the selection translates with its cursor, and the query
is ordered by the leading term of the statement in the direction of travel.
-/
def Statement.ContinuedBy (statement : Statement) (selection : Selection) (travel : Travel)
    (token : String) : Prop :=
  ∃ cursor next, Cursor.ofToken token = .ok cursor ∧
    Device.catalog.statement { selection with cursor := some cursor } = .ok next ∧
    next.isKeyset = true ∧
    next.terms.head? = statement.terms.head?.map fun term => term.toward travel

theorem Statement.continuedBy_iff (hcursor : selection.cursor = none)
    (hstatement : Device.catalog.Pages selection statement) {device : Device}
    (h : device.Readable) (travel : Travel) :
    statement.ContinuedBy selection travel
        (device.cursor selection.continuedSort travel).token ↔
      ∀ key ∈ selection.primary?, key.Stable := by
  have leading : statement.terms.head? = some selection.leading := by
    rw [hstatement.terms, selection.head?_sortTerms]
  rw [ContinuedBy, leading, Option.map_some, Selection.stable_primary_iff hcursor]
  constructor
  · rintro ⟨cursor, next, htoken, hnext, -, hhead⟩
    have hfield : selection.continuedKey.field ≠ "" := by
      intro empty
      rw [device.ofToken_token_cursor_of_field_eq_empty travel empty] at htoken
      cases htoken
    rw [device.ofToken_token_cursor travel hfield] at htoken
    obtain rfl := Except.ok.inj htoken
    have beyond := Catalog.pagesBeyond_of_statement rfl hnext
    rw [beyond.terms, Catalog.keyset, Catalog.head?_keysetTerms] at hhead
    exact ⟨hfield, Sql.OrderTerm.toward_inj.mp (Option.some.inj hhead)⟩
  · rintro ⟨hfield, hterm⟩
    have translates : ∃ next, Device.catalog.statement { selection with
        cursor := some (device.cursor selection.continuedSort travel) } = .ok next :=
      Catalog.exists_statement_of_continues hstatement.toFilters rfl
        (Device.continues_cursor h selection.continuedSort travel)
    obtain ⟨next, hnext⟩ := translates
    have beyond := Catalog.pagesBeyond_of_statement rfl hnext
    refine ⟨_, next, device.ofToken_token_cursor travel hfield, hnext, ?_, ?_⟩
    · rw [Statement.isKeyset, beyond.window]
      rfl
    · rw [beyond.terms, Catalog.keyset, Catalog.head?_keysetTerms, ← hterm]
      rfl

/-! ## The sides of a numbered page -/

namespace PageInfo

def goesOn (info : PageInfo) : Travel → Bool
  | .next => info.hasNext
  | .prev => info.hasPrevious

theorem exists_goesOn (page size : UInt32) (hsize : 0 < size) (hpage : 0 < page) :
    ∃ travel total, total < 2 ^ 62 ∧ (ofTotal page size total).goesOn travel = true := by
  -- A late page may end beyond every total, but then it has a page in front of it.
  by_cases first : page = 1
  · have bound := size.toNat_lt
    refine ⟨.next, size.toNat + 1, by omega, ?_⟩
    have second : 1 < pageCount size ((size.toNat + 1 : Nat) : Int) :=
      (one_lt_pageCount_iff (by omega) hsize).mpr (by omega)
    simpa [goesOn, ofTotal, first] using second
  · refine ⟨.prev, 0, by decide, ?_⟩
    have later : 1 < page := by
      have nonzero : page.toNat ≠ 1 := fun h => first (UInt32.toNat_inj.mp h)
      have positive : 0 < page.toNat := hpage
      show 1 < page.toNat
      omega
    simpa [goesOn, ofTotal] using later

end PageInfo

theorem Page.assemble_numbered (hcursor : selection.cursor = none)
    (hstatement : Device.catalog.Pages selection statement) (total : Int) (rows : List Device) :
    (assemble selection statement total rows).items = rows.take selection.size.toNat ∧
      ∀ travel, (assemble selection statement total rows).info.token travel =
        if (PageInfo.ofTotal selection.page selection.size total).goesOn travel then
          (travel.shown (rows.take selection.size.toNat)).getLast?.map fun device =>
            (device.cursor selection.continuedSort travel).token
        else none := by
  have shown : statement.shownRows selection.size rows = rows.take selection.size.toNat := by
    rw [Statement.shownRows, Statement.reversed, hstatement.window]
    rfl
  constructor
  · simp only [assemble, shown]
  · intro travel
    simp only [assemble, shown, Selection.sides, hcursor, Option.map_none]
    cases travel with
    | next => rfl
    | prev =>
        rw [Travel.shown, List.getLast?_reverse]
        rfl

/-! ## Tokens that continue their page -/

def Queries.constant (total : Int) (rows : List Device) : Queries Id where
  count _ := pure total
  fetch _ _ := pure rows

/--
The tokens on the page of a selection without a cursor are accepted and continue
the page, whatever the queries answer, if and only if the first sort key is
stable.
-/
theorem tokens_continue_page_iff (hcursor : selection.cursor = none)
    (hstatement : Device.catalog.statement selection = .ok statement) :
    (∀ (queries : Queries Id) (total : Int) (rows : List Device),
      queries.count statement = pure total →
      queries.fetch statement statement.lookAhead = pure rows →
      total < 2 ^ 62 → (∀ device ∈ rows, device.Readable) →
        ∃ page, Page.list queries Device.catalog selection = pure page ∧
          ∀ travel token, page.info.token travel = some token →
            statement.ContinuedBy selection travel token) ↔
      ∀ key ∈ selection.primary?, key.Stable := by
  have pages := Catalog.pages_of_statement hcursor hstatement
  constructor
  · intro h
    obtain ⟨travel, total, hsmall, hgoesOn⟩ :=
      PageInfo.exists_goesOn selection.page selection.size selection.size_pos selection.page_pos
    have readable : ∀ device ∈ [Device.twin .nil], device.Readable := by
      simp [Device.readable_twin]
    obtain ⟨page, hpage, htokens⟩ := h (.constant total [.twin .nil]) total [.twin .nil]
      rfl rfl hsmall readable
    rw [Page.list_eq hstatement rfl rfl] at hpage
    obtain rfl := Except.ok.inj hpage
    have token := (Page.assemble_numbered hcursor pages total [.twin .nil]).2 travel
    have one : [Device.twin .nil].take selection.size.toNat = [Device.twin .nil] :=
      List.take_of_length_le selection.size_pos
    have edge : (travel.shown [Device.twin .nil]).getLast? = some (.twin .nil) := by
      cases travel <;> rfl
    rw [if_pos hgoesOn, one, edge] at token
    exact (Statement.continuedBy_iff hcursor pages (Device.readable_twin .nil) travel).mp
      (htokens travel _ token)
  · intro stable queries total rows hcount hfetch _ hreadable
    refine ⟨_, Page.list_eq hstatement hcount hfetch, ?_⟩
    intro travel token htoken
    rw [(Page.assemble_numbered hcursor pages total rows).2 travel] at htoken
    split at htoken
    next =>
      obtain ⟨device, hdevice, rfl⟩ := Option.map_eq_some_iff.mp htoken
      have shown := List.mem_of_getLast? hdevice
      have taken : device ∈ rows.take selection.size.toNat := by
        cases travel with
        | next => exact shown
        | prev => exact List.mem_reverse.mp shown
      have readable := hreadable device (List.mem_of_mem_take taken)
      exact (Statement.continuedBy_iff hcursor pages readable travel).mpr stable
    next => cases htoken

theorem tokens_continue_page_by_brand :
    ∃ statement, Device.catalog.statement (.single [⟨"brand", .descending⟩] none) = .ok statement ∧
      ∀ (queries : Queries Id) (total : Int) (rows : List Device),
        queries.count statement = pure total →
        queries.fetch statement statement.lookAhead = pure rows →
        total < 2 ^ 62 → (∀ device ∈ rows, device.Readable) →
          ∃ page, Page.list queries Device.catalog (.single [⟨"brand", .descending⟩] none) =
              pure page ∧
            ∀ travel token, page.info.token travel = some token →
              statement.ContinuedBy (.single [⟨"brand", .descending⟩] none) travel token := by
  refine ⟨_, rfl, (tokens_continue_page_iff rfl rfl).mpr ?_⟩
  intro key hkey
  obtain rfl := Option.some.inj hkey
  exact SortKey.stable_of_parse_signed (by decide) (by decide)

/-- A sort key that is only a minus orders a page, but its token names no field. -/
theorem token_of_bare_minus_refused :
    ∃ statement page token,
      Device.catalog.statement ((Draft.empty.orderBy "-").paginate 1 1).build = .ok statement ∧
      Page.list (.constant 2 [.twin .nil]) Device.catalog
          ((Draft.empty.orderBy "-").paginate 1 1).build = pure page ∧
      (Device.twin .nil).Readable ∧ page.info.nextCursor = some token ∧
      Cursor.ofToken token = .error .missingSortField := by
  refine ⟨_, _, ((Device.twin .nil).cursor "-" .next).token, rfl, rfl, Device.readable_twin _,
    rfl, ?_⟩
  apply Device.ofToken_token_cursor_of_field_eq_empty
  decide

end Stockroom
