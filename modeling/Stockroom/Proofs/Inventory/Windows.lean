import Mathlib.Data.Rat.Floor
import Mathlib.Order.Interval.Finset.Nat
import Stockroom.Inventory.Page
import Stockroom.Proofs.Query.Steps

/-!
# Windows of rows

The numbered pages of a list cut its rows into windows of one size, the last of which may
be shorter.  The number of pages is the least one whose windows reach the end of the rows;
from this follows what a page says about the pages on both sides of it.
-/

namespace Stockroom

namespace PageInfo

/-! ## The number of pages -/

variable {size : UInt32} {total : Nat}

/--
The count on words is the quotient rounded up, as long as the rows and all but one of a page fit
into a word.  Rows and a whole page may make 2 ^ 63: then the sum wraps around in two's complement
and taking one away brings it back, while a build that checks sums for overflow stops.
-/
theorem toInt_countWord (fits : total + size.toNat - 1 < 2 ^ 63) (hsize : 0 < size) :
    (countWord size (.ofNat total)).toInt = ((total : Int) + size.toNat - 1) / size.toNat := by
  have positive : 0 < size.toNat := hsize
  have bound := size.toNat_lt
  have sizeWord : (Int64.ofNat size.toNat).toInt = size.toNat := Int64.toInt_ofNat_of_lt (by omega)
  have totalWord : (Int64.ofNat total).toInt = total := Int64.toInt_ofNat_of_lt (by omega)
  have sum : (Int64.ofNat total + .ofNat size.toNat - 1).toInt =
      (total : Int) + size.toNat - 1 := by
    rw [Int64.toInt_sub, Int64.toInt_add, sizeWord, totalWord, Int.bmod_sub_bmod]
    exact Int.bmod_eq_of_le (by simp; omega) (by simp; omega)
  have notMinusOne : Int64.ofNat size.toNat ≠ -1 := by
    intro h
    have same := congrArg Int64.toInt h
    rw [sizeWord] at same
    simp at same
  rw [countWord, if_neg (UInt32.pos_iff_ne_zero.mp hsize),
    Int64.toInt_div_of_ne_right _ _ notMinusOne, sum, sizeWord,
    Int.tdiv_eq_ediv_of_nonneg (by omega)]

theorem pageCount_eq_toInt_countWord (size : UInt32) (total : Nat) :
    pageCount size total = (countWord size (.ofNat total)).toInt := by
  rw [pageCount, Int64.ofInt_eq_ofNat]

theorem pageCount_le_iff (fits : total + size.toNat - 1 < 2 ^ 63) (hsize : 0 < size)
    (pages : Int) : pageCount size total ≤ pages ↔ total ≤ pages * size.toNat := by
  have positive : (0 : Int) < size.toNat := Int.natCast_pos.mpr hsize
  rw [pageCount_eq_toInt_countWord, toInt_countWord fits hsize, Int.ediv_le_iff_le_mul positive]
  omega

theorem lt_pageCount_iff (fits : total + size.toNat - 1 < 2 ^ 63) (hsize : 0 < size)
    (page : Nat) : page < pageCount size total ↔ page * size.toNat < total := by
  rw [← Int.not_le, pageCount_le_iff fits hsize, Int.not_le]
  exact_mod_cast Iff.rfl

theorem one_lt_pageCount_iff (fits : total + size.toNat - 1 < 2 ^ 63) (hsize : 0 < size) :
    1 < pageCount size total ↔ size.toNat < total := by
  have second := lt_pageCount_iff fits hsize 1
  rwa [Nat.cast_one, Nat.one_mul] at second

theorem pageCount_eq_ceil (fits : total + size.toNat - 1 < 2 ^ 63) (hsize : 0 < size) :
    pageCount size total = ⌈(total : ℚ) / size.toNat⌉ := by
  have positive : (0 : ℚ) < size.toNat := Nat.cast_pos.mpr hsize
  refine eq_of_forall_ge_iff fun pages => ?_
  rw [pageCount_le_iff fits hsize, Int.ceil_le, div_le_iff₀ positive]
  exact_mod_cast Iff.rfl

theorem hasNext_iff_countWord (page size : UInt32) (total : Nat) :
    (ofTotal page size total).hasNext = true ↔
      Int64.ofNat page.toNat < countWord size (.ofNat total) := by
  have bound := page.toNat_lt
  have pageWord : (Int64.ofNat page.toNat).toInt = page.toNat :=
    Int64.toInt_ofNat_of_lt (by omega)
  rw [Int64.lt_iff_toInt_lt, pageWord, ← pageCount_eq_toInt_countWord]
  exact decide_eq_true_iff

end PageInfo

/-! ## Windows -/

/-- The rows on the page with the given number, out of `total` rows. -/
def window (size total page : Nat) : Finset Nat :=
  Finset.Ico ((page - 1) * size) ((page - 1) * size + size) ∩ Finset.range total

section Window

variable {size total page other row : Nat}

theorem mem_window : row ∈ window size total page ↔
    ((page - 1) * size ≤ row ∧ row < (page - 1) * size + size) ∧ row < total := by
  rw [window, Finset.mem_inter, Finset.mem_Ico, Finset.mem_range]

theorem window_nonempty_iff (hsize : 0 < size) :
    (window size total page).Nonempty ↔ (page - 1) * size < total := by
  constructor
  · rintro ⟨row, hrow⟩
    obtain ⟨⟨first, -⟩, last⟩ := mem_window.mp hrow
    omega
  · intro h
    exact ⟨(page - 1) * size, mem_window.mpr ⟨⟨le_rfl, by omega⟩, h⟩⟩

/-- A row is on one page only, the one that its index over the size gives. -/
theorem mem_window_iff (hpage : 1 ≤ page) (hsize : 0 < size) :
    row ∈ window size total page ↔ page = row / size + 1 ∧ row < total := by
  have place : row / size = page - 1 ↔
      (page - 1) * size ≤ row ∧ row < (page - 1) * size + size := by
    rw [Nat.div_eq_iff hsize]
    omega
  rw [mem_window, ← place]
  omega

end Window

theorem window_nonempty_iff_le_pageCount {size : UInt32} {total page : Nat}
    (fits : total + size.toNat - 1 < 2 ^ 63) (hsize : 0 < size) (hpage : 1 ≤ page) :
    (window size.toNat total page).Nonempty ↔ page ≤ PageInfo.pageCount size total := by
  have positive : 0 < size.toNat := hsize
  rw [window_nonempty_iff positive, ← PageInfo.lt_pageCount_iff fits hsize]
  omega

/--
The numbered pages tile the rows.  The number of pages, which words of 64 bits compute, is the
quotient of rows and size rounded up.  If rows and size make 2 ^ 63, this rests on a sum that
wraps around in two's complement and comes back; a build that checks sums for overflow stops
at this one edge.  The rows of a page start at its offset, which does not wrap; there is a next
page exactly if a row lies behind them.  The windows of the pages up to the last one hold
rows, no two of them share one, and together they hold all; beyond them windows are empty
and there is no next page.
-/
theorem numbered_pages_tile_rows (selection : Selection) (total : Nat)
    (fits : total + selection.size.toNat - 1 < 2 ^ 63) :
    let info := PageInfo.ofTotal selection.page selection.size total
    let size := selection.size.toNat
    let offset := selection.offset.toNat
    info.totalPages = ⌈(total : ℚ) / size⌉ ∧
    (PageInfo.countWord selection.size (.ofNat total)).toInt = info.totalPages ∧
    offset = (selection.page.toNat - 1) * size ∧
    window size total selection.page.toNat =
      Finset.Ico offset (offset + size) ∩ Finset.range total ∧
    (info.hasNext = true ↔ selection.page.toNat * size < total) ∧
    (info.hasNext = true ↔ ∃ row < total, offset + size ≤ row) ∧
    (info.hasNext = true ↔
      Int64.ofNat selection.page.toNat < PageInfo.countWord selection.size (.ofNat total)) ∧
    (info.hasPrevious = true ↔ 1 < selection.page) ∧
    (∀ page : Nat, 1 ≤ page → page ≤ info.totalPages → (window size total page).Nonempty) ∧
    (∀ page other : Nat, 1 ≤ page → 1 ≤ other → page ≠ other →
      Disjoint (window size total page) (window size total other)) ∧
    (∀ row < total, ∃ page : Nat, 1 ≤ page ∧ page ≤ info.totalPages ∧
      row ∈ window size total page) ∧
    (∀ page : Nat, 1 ≤ page → info.totalPages < page → window size total page = ∅) ∧
    (info.totalPages < selection.page.toNat → info.hasNext = false) := by
  intro info size offset
  have hsize : 0 < selection.size := selection.size_pos
  have hpage : 1 ≤ selection.page.toNat := selection.page_pos
  have offset_eq : offset = (selection.page.toNat - 1) * size := selection.toNat_offset
  have hasNext : info.hasNext = true ↔ selection.page.toNat * size < total :=
    decide_eq_true_iff.trans (PageInfo.lt_pageCount_iff fits hsize selection.page.toNat)
  have next_offset : offset + size = selection.page.toNat * size := by
    rw [offset_eq, ← Nat.succ_mul]
    congr 1
    omega
  refine ⟨PageInfo.pageCount_eq_ceil fits hsize,
    (PageInfo.pageCount_eq_toInt_countWord selection.size total).symm, offset_eq, ?_, hasNext, ?_,
    PageInfo.hasNext_iff_countWord selection.page selection.size total, decide_eq_true_iff, ?_, ?_,
    ?_, ?_, ?_⟩
  · rw [offset_eq, window]
  · rw [hasNext, next_offset]
    exact ⟨fun h => ⟨_, h, le_rfl⟩, fun ⟨row, hrow, behind⟩ => behind.trans_lt hrow⟩
  · intro page first last
    exact (window_nonempty_iff_le_pageCount fits hsize first).mpr last
  · intro page other hpage hother apart
    rw [Finset.disjoint_left]
    intro row onPage onOther
    have here := ((mem_window_iff hpage hsize).mp onPage).1
    have there := ((mem_window_iff hother hsize).mp onOther).1
    exact apart (here.trans there.symm)
  · intro row hrow
    have first : 1 ≤ row / size + 1 := Nat.le_add_left _ _
    have onPage : row ∈ window size total (row / size + 1) :=
      (mem_window_iff first hsize).mpr ⟨rfl, hrow⟩
    exact ⟨row / size + 1, first,
      (window_nonempty_iff_le_pageCount fits hsize first).mp ⟨row, onPage⟩, onPage⟩
  · intro page first beyond
    rw [← Finset.not_nonempty_iff_eq_empty, window_nonempty_iff_le_pageCount fits hsize first]
    exact not_le.mpr beyond
  · intro beyond
    exact decide_eq_false (not_lt.mpr beyond.le)

/-- The last page and the largest size there are. -/
def lastPage : Selection :=
  (Draft.empty.paginate (.ofNat (UInt32.size - 1)) (.ofNat (UInt32.size - 1))).build

/-- As many rows as words can count for this size without a sum that wraps around. -/
theorem numbered_pages_tile_rows_of_lastPage :
    let size := lastPage.size.toNat
    let rows := 2 ^ 63 - size - 1
    rows + size - 1 < 2 ^ 63 ∧
      lastPage.offset.toNat = (2 ^ 32 - 2) * (2 ^ 32 - 1) ∧
      (PageInfo.ofTotal lastPage.page lastPage.size rows).totalPages = 2 ^ 31 ∧
      (PageInfo.ofTotal lastPage.page lastPage.size rows).hasNext = false ∧
      (window size rows (2 ^ 31)).Nonempty ∧ window size rows (2 ^ 31 + 1) = ∅ ∧
      Disjoint (window size rows 1) (window size rows 2) ∧
      ∃ page : Nat, 1 ≤ page ∧ page ≤ (2 : Int) ^ 31 ∧ size ∈ window size rows page := by
  intro size rows
  have fits : rows + size - 1 < 2 ^ 63 := by decide
  obtain ⟨-, count, offset, -, -, -, -, -, filled, apart, covered, vacant, last⟩ :=
    numbered_pages_tile_rows lastPage rows fits
  have pages : (PageInfo.ofTotal lastPage.page lastPage.size rows).totalPages = 2 ^ 31 := by
    rw [← count]
    decide
  rw [pages] at filled covered vacant last
  exact ⟨fits, offset, pages, last (by decide), filled _ (by decide) (by decide),
    vacant _ (by decide) (by decide), apart 1 2 (by decide) (by decide) (by decide),
    covered size (by decide)⟩

end Stockroom
