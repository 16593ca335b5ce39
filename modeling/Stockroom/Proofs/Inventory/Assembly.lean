import Stockroom.Proofs.Inventory.Acceptance
import Stockroom.Proofs.Inventory.Continuation

/-!
# Pages and the rows fetched for them

A page shows a front of the rows that were fetched, turned round behind a cursor that
looks back, and its tokens leave the rows at its ends.  Behind a cursor neither the
number of the page nor the sort keys matter, except that the number is shown.
-/

namespace Stockroom

/-! ## Statements behind a cursor -/

theorem Catalog.reversed_of_statement {catalog : Catalog} {selection : Selection}
    {statement : Statement} (h : catalog.statement selection = .ok statement) :
    statement.reversed = decide (selection.cursor.map Cursor.travel = some .prev) := by
  cases hcursor : selection.cursor with
  | none =>
      rw [Statement.reversed, (pages_of_statement hcursor h).window]
      rfl
  | some cursor =>
      rw [(pagesBeyond_of_statement hcursor h).reversed_eq]
      simp

namespace Selection

/-- Another page and other sort keys for the same selection. -/
def turnedTo (selection : Selection) (page : UInt32) (page_pos : 0 < page)
    (sorting : List SortKey) : Selection :=
  { selection with page, page_pos, sorting }

variable {selection : Selection} {cursor : Cursor} (page : UInt32) (page_pos : 0 < page)
  (sorting : List SortKey)

theorem statement_turnedTo (catalog : Catalog) (hcursor : selection.cursor = some cursor) :
    catalog.statement (selection.turnedTo page page_pos sorting) = catalog.statement selection := by
  simp [Catalog.statement, Catalog.lowerSelection, Catalog.lowerWindow, turnedTo, hcursor]

end Selection

/-! ## Assembled pages -/

namespace Page

variable {m : Type → Type} [Monad m] [LawfulMonad m] {queries : Queries m} {catalog : Catalog}
  {selection : Selection} {statement : Statement} {total : Int} {rows : List Device}

theorem items_assemble (h : catalog.statement selection = .ok statement) (total : Int)
    (rows : List Device) :
    (assemble selection statement total rows).items =
      if selection.cursor.map Cursor.travel = some .prev then
        (rows.take selection.size.toNat).reverse
      else rows.take selection.size.toNat := by
  simp [assemble, Statement.shownRows, Catalog.reversed_of_statement h]

theorem nextCursor_eq_some_iff {token : String} :
    (assemble selection statement total rows).info.nextCursor = some token ↔
      (assemble selection statement total rows).info.hasNext = true ∧
        ∃ last, (assemble selection statement total rows).items.getLast? = some last ∧
          (last.cursor selection.continuedSort .next).token = token := by
  simp [assemble]

theorem previousCursor_eq_some_iff {token : String} :
    (assemble selection statement total rows).info.previousCursor = some token ↔
      (assemble selection statement total rows).info.hasPrevious = true ∧
        ∃ first, (assemble selection statement total rows).items.head? = some first ∧
          (first.cursor selection.continuedSort .prev).token = token := by
  simp [assemble]

/-- The same page under another number. -/
def numbered (number : UInt32) (page : Page) : Page :=
  { page with info := { page.info with page := number } }

theorem assemble_turnedTo {cursor : Cursor} (hcursor : selection.cursor = some cursor)
    (number : UInt32) (number_pos : 0 < number) (sorting : List SortKey) :
    assemble (selection.turnedTo number number_pos sorting) statement total rows =
      (assemble selection statement total rows).numbered number := by
  simp only [assemble, Selection.turnedTo, Selection.sides, Selection.continuedSort, hcursor,
    Option.map_some, numbered]
  cases cursor.travel <;> rfl

theorem list_turnedTo {cursor : Cursor} (hcursor : selection.cursor = some cursor)
    (number : UInt32) (number_pos : 0 < number) (sorting : List SortKey) :
    list queries catalog (selection.turnedTo number number_pos sorting) =
      numbered number <$> list queries catalog selection := by
  have same := selection.statement_turnedTo number number_pos sorting catalog hcursor
  cases hstatement : catalog.statement selection with
  | error fault =>
      rw [list_of_error hstatement, list_of_error (same.trans hstatement)]
      apply ExceptT.ext
      simp
  | ok statement =>
      rw [list_of_statement hstatement, list_of_statement (same.trans hstatement)]
      simp [assemble_turnedTo hcursor]

end Page

/-! ## What a page shows -/

theorem Selection.continuedSort_eq (selection : Selection) :
    selection.continuedSort =
      match selection.cursor, selection.sorting.head? with
      | some cursor, _ => cursor.field
      | none, some first => first.signed
      | none, none => "-createdAt" := by
  rw [continuedSort, primary?]
  cases selection.cursor <;> cases selection.sorting.head? <;> rfl

/--
Whatever rows are fetched, the page shows the first ones of them, as many as it has
room for, in their order or, behind a cursor that looks back, in the reverse one.  It has
a token on a side exactly if there is more on this side and a row is shown, and the
token leaves the row at this end by the sort key of the cursor or else of the
selection.  With a cursor, another number and other sort keys are asked for by the same
statement and answered by the same page, up to its number.
-/
theorem page_shows_fetched_rows {m : Type → Type} [Monad m] [LawfulMonad m]
    (queries : Queries m) (catalog : Catalog) (selection : Selection) :
    let key :=
      match selection.cursor, selection.sorting.head? with
      | some cursor, _ => cursor.field
      | none, some first => first.signed
      | none, none => "-createdAt"
    (∀ (statement : Statement) (total : Int) (rows : List Device),
      catalog.statement selection = .ok statement →
      queries.count statement = pure total →
      queries.fetch statement statement.lookAhead = pure rows →
        ∃ page, Page.list queries catalog selection = pure page ∧
          page.items =
            (if selection.cursor.map Cursor.travel = some .prev then
              (rows.take selection.size.toNat).reverse
            else rows.take selection.size.toNat) ∧
          (∀ token, page.info.nextCursor = some token ↔
            page.info.hasNext = true ∧
              ∃ last, page.items.getLast? = some last ∧ (last.cursor key .next).token = token) ∧
          ∀ token, page.info.previousCursor = some token ↔
            page.info.hasPrevious = true ∧
              ∃ first, page.items.head? = some first ∧
                (first.cursor key .prev).token = token) ∧
    (selection.cursor.isSome = true →
      ∀ (number : UInt32) (number_pos : 0 < number) (sorting : List SortKey),
        catalog.statement (selection.turnedTo number number_pos sorting) =
          catalog.statement selection ∧
        Page.list queries catalog (selection.turnedTo number number_pos sorting) =
          Page.numbered number <$> Page.list queries catalog selection) := by
  dsimp only
  rw [← selection.continuedSort_eq]
  constructor
  · intro statement total rows hstatement hcount hfetch
    refine ⟨Page.assemble selection statement total rows,
      Page.list_eq hstatement hcount hfetch, Page.items_assemble hstatement total rows,
      fun token => ?_, fun token => ?_⟩
    · exact Page.nextCursor_eq_some_iff
    · exact Page.previousCursor_eq_some_iff
  · intro continues number number_pos sorting
    obtain ⟨cursor, hcursor⟩ := Option.isSome_iff_exists.mp continues
    constructor
    · exact selection.statement_turnedTo number number_pos sorting catalog hcursor
    · exact Page.list_turnedTo hcursor number number_pos sorting

/-- Two rows for a page of one that looks back, and the same page as the seventh. -/
theorem page_shows_fetched_rows_of_twins :
    ∃ page, Page.list (.constant 2 [.twin ⟨2, by decide⟩, .twin ⟨1, by decide⟩]) Device.catalog
        (.single [] (some ((Device.twin ⟨3, by decide⟩).cursor "brand" .prev))) = pure page ∧
      page.items = [.twin ⟨2, by decide⟩] ∧
      page.info.previousCursor =
        some ((Device.twin ⟨2, by decide⟩).cursor "brand" .prev).token ∧
      Page.list (.constant 2 [.twin ⟨2, by decide⟩, .twin ⟨1, by decide⟩]) Device.catalog
        ((Selection.single [] (some ((Device.twin ⟨3, by decide⟩).cursor "brand" .prev))).turnedTo
          7 (by decide) [⟨"name", .descending⟩]) = pure (page.numbered 7) := by
  obtain ⟨rows, turned⟩ := page_shows_fetched_rows
    (.constant 2 [.twin ⟨2, by decide⟩, .twin ⟨1, by decide⟩]) Device.catalog
    (.single [] (some ((Device.twin ⟨3, by decide⟩).cursor "brand" .prev)))
  obtain ⟨page, hpage, items, -, previous⟩ := rows _ 2 [.twin ⟨2, by decide⟩, .twin ⟨1, by decide⟩]
    rfl rfl rfl
  have more : page.info.hasPrevious = true := by
    have assembled := Except.ok.inj (hpage.symm.trans (Page.list_eq rfl rfl rfl))
    rw [assembled]
    rfl
  refine ⟨page, hpage, items, (previous _).mpr ⟨more, .twin ⟨2, by decide⟩, ?_, rfl⟩, ?_⟩
  · rw [items]
    rfl
  · rw [(turned rfl 7 (by decide) [⟨"name", .descending⟩]).2, hpage]
    rfl

end Stockroom
