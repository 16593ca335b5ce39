import Stockroom.Proofs.Inventory.Request
import Stockroom.Proofs.Settings.Loading

/-!
# Limits of pages

No zero reaches a page: the limits that are loaded are not zero, and a zero that is asked for
counts as nothing.  So the limit bounds the size of every page that a request selects, and the
statement of the page takes no more rows, the further ones aside that its text makes room for.
-/

namespace Stockroom

/-! ## Pages and sizes asked for -/

/-- The number asked for, unless there is none or it is zero. -/
inductive AskedOr (default : UInt32) : Option UInt32 → UInt32 → Prop where
  | absent : AskedOr default none default
  | zero : AskedOr default (some 0) default
  | given {number : UInt32} (h : number ≠ 0) : AskedOr default (some number) number

theorem AskedOr.pos {default number : UInt32} {asked : Option UInt32}
    (h : AskedOr default asked number) (hdefault : 0 < default) : 0 < number := by
  cases h with
  | absent | zero => exact hdefault
  | given nonzero => exact UInt32.pos_iff_ne_zero.mpr nonzero

theorem askedOr_filter (default : UInt32) (asked : Option UInt32) :
    AskedOr default asked ((asked.filter (0 < ·)).getD default) := by
  cases asked with
  | none => exact .absent
  | some number =>
      by_cases zero : number = 0
      · subst zero
        exact .zero
      · have positive : 0 < number := UInt32.pos_iff_ne_zero.mpr zero
        rw [Option.filter_some, if_pos (decide_eq_true positive), Option.getD_some]
        exact .given zero

theorem askedOr_orKeep (kept : UInt32) (asked : Option UInt32) :
    AskedOr kept asked (Draft.orKeep kept (asked.getD kept)) := by
  unfold Draft.orKeep
  cases asked with
  | none =>
      rw [Option.getD_none, ite_self]
      exact .absent
  | some number =>
      rw [Option.getD_some]
      split
      next zero => exact zero ▸ .zero
      next nonzero => exact .given nonzero

namespace PageLimits

structure Positive (limits : PageLimits) : Prop where
  defaultSize : 0 < limits.defaultSize
  maxSize : 0 < limits.maxSize

theorem size_pos {limits : PageLimits} (h : limits.Positive) (asked : Option UInt32) :
    0 < limits.size asked := by
  have positive := (askedOr_filter limits.defaultSize asked).pos h.defaultSize
  rw [UInt32.lt_iff_toNat_lt, size, UInt32.toNat_min]
  exact Nat.lt_min.mpr ⟨positive, h.maxSize⟩

end PageLimits

/-- Page and size are the ones asked for or the defaults, and the size is within the limit. -/
structure PageLimits.Bounds (limits : PageLimits) (request : ListRequest)
    (selection : Selection) : Prop where
  size : ∃ size, AskedOr limits.defaultSize request.size size ∧
    selection.size.toNat = min size.toNat limits.maxSize.toNat
  one_le_size : 1 ≤ selection.size.toNat
  size_le_max : selection.size.toNat ≤ limits.maxSize.toNat
  page : AskedOr 1 request.page selection.page

namespace ListRequest

theorem page_draft (request : ListRequest) (limits : PageLimits) :
    (request.draft limits).page = Draft.orKeep 1 (request.page.getD 1) := by
  rw [draft_eq]
  rfl

theorem size_draft (request : ListRequest) (limits : PageLimits) :
    (request.draft limits).size =
      Draft.orKeep Selection.defaultSize (limits.size request.size) := by
  rw [draft_eq]
  rfl

/-- The size of the draft never comes from the builder, since it is not zero. -/
theorem size_draft_of_positive (request : ListRequest) {limits : PageLimits}
    (h : limits.Positive) : (request.draft limits).size = limits.size request.size := by
  rw [size_draft, Draft.orKeep,
    if_neg (UInt32.pos_iff_ne_zero.mp (PageLimits.size_pos h request.size))]

theorem bounds_of_selection {request : ListRequest} {limits : PageLimits}
    {selection : Selection} (h : limits.Positive)
    (selected : request.selection limits = .ok selection) : limits.Bounds request selection := by
  obtain ⟨cursor, rfl⟩ := exists_eq_of_selection selected
  have size : (request.draft limits).size = _ := request.size_draft_of_positive h
  have clamped : (limits.size request.size).toNat = _ := UInt32.toNat_min ..
  have page := askedOr_orKeep 1 request.page
  rw [← page_draft request limits] at page
  refine ⟨⟨_, askedOr_filter .., ?_⟩, ?_, ?_, page⟩
  · exact (congrArg UInt32.toNat size).trans clamped
  · exact (request.draft limits).size_pos
  · exact ((congrArg UInt32.toNat size).trans clamped).trans_le (min_le_right ..)

end ListRequest

theorem Settings.positive_of_load {lookup : String → Option String} {settings : Settings}
    (h : load lookup = .ok settings) : settings.limits.Positive := by
  have passes := exists_load_iff.mp ⟨settings, h⟩
  have follows := follows_of_load h
  have defaultSize := passes (.positive .defaultSize) (by simp [Check.inOrder])
  have maxSize := passes (.positive .maxSize) (by simp [Check.inOrder])
  constructor
  · refine UInt32.pos_iff_ne_zero.mpr fun zero => defaultSize ?_
    simpa [zero] using follows.defaultSize
  · refine UInt32.pos_iff_ne_zero.mpr fun zero => maxSize ?_
    simpa [zero] using follows.maxSize

/-! ## Limits in statements -/

namespace Statement

/-- The text behind the limit. -/
def skipText (statement : Statement) : String :=
  match statement.window.offset with
  | none => ""
  | some offset => " OFFSET " ++ toString offset.toNat

/-- The limit in the text of the rows, with room for further ones, and in its only reading. -/
structure TakesUpTo (statement : Statement) (extra : UInt32) (limit : Nat) : Prop where
  text : ∀ table columns, statement.rowsText table columns extra =
    "SELECT " ++ columns ++ " FROM " ++ table ++ Sql.clauseText statement.whereText ++ " " ++
      statement.orderText ++ " LIMIT " ++ toString limit ++ statement.skipText
  reading : statement.Plain → ∀ (table : String) (columns : List String),
    Sql.isPlain table = true → columns ≠ [] → (∀ column ∈ columns, Sql.isPlain column = true) →
    ∃ query : Sql.Select, query.limit = limit ∧ ∀ other,
      Sql.ReadsSelect (statement.rowsText table (", ".intercalate columns) extra) other ↔
        other = query

variable (statement : Statement)

theorem windowText_eq (extra : UInt32) :
    statement.windowText extra = "LIMIT " ++
      toString (min (statement.window.limit.toNat + extra.toNat) (UInt32.size - 1)) ++
        statement.skipText := by
  have small : min (statement.window.limit.toNat + extra.toNat) (UInt32.size - 1) <
      UInt32.size := Nat.lt_of_le_of_lt (Nat.min_le_right ..) (by decide)
  simp only [windowText, Sql.windowText, skipText, UInt32.toNat_ofNat_of_lt' small]
  cases statement.window.offset with
  | none => rw [String.append_empty]
  | some offset => simp only [String.append_assoc]

theorem takesUpTo (extra : UInt32) :
    statement.TakesUpTo extra
      (min (statement.window.limit.toNat + extra.toNat) (UInt32.size - 1)) where
  text := by
    intro table columns
    rw [rowsText_eq, windowText_eq]
    simp only [orderText, String.append_assoc]
    rfl
  reading := by
    intro plain table columns htable hcolumns hplain
    have reads := plain.reads_rows htable hcolumns hplain extra
    exact ⟨_, rfl, fun other => ⟨fun also => also.unique reads, fun same => same ▸ reads⟩⟩

end Statement

theorem Catalog.limit_of_statement {catalog : Catalog} {selection : Selection}
    {statement : Statement} (h : catalog.statement selection = .ok statement) :
    statement.window.limit = selection.size := by
  cases hcursor : selection.cursor with
  | none => rw [(pages_of_statement hcursor h).window]
  | some cursor => rw [(pagesBeyond_of_statement hcursor h).window]

/--
With limits that have been loaded, every page is at least one row and at most the greatest
size long, also if the default size is greater.  The statement of the page takes as many rows
as its size, and with room for one more at most one more than the greatest size.
-/
theorem load_bounds_pages {lookup : String → Option String} {settings : Settings}
    {request : ListRequest} {selection : Selection} (loaded : Settings.load lookup = .ok settings)
    (selected : request.selection settings.limits = .ok selection) :
    settings.limits.Bounds request selection ∧
    ∀ (catalog : Catalog) (statement : Statement),
      catalog.statement selection = .ok statement →
        statement.window.limit = selection.size ∧
        statement.TakesUpTo 0 selection.size.toNat ∧
        (∃ limit, statement.TakesUpTo 1 limit ∧ limit ≤ settings.limits.maxSize.toNat + 1) ∧
        (catalog.Plain → statement.Plain) := by
  have bounds := request.bounds_of_selection (Settings.positive_of_load loaded) selected
  refine ⟨bounds, fun catalog statement translated => ?_⟩
  have limit := Catalog.limit_of_statement translated
  have own := statement.takesUpTo 0
  have further := statement.takesUpTo 1
  have small := selection.size.toNat_lt
  have same : min (selection.size.toNat + (0 : UInt32).toNat) (UInt32.size - 1) =
      selection.size.toNat := Nat.min_eq_left (Nat.le_sub_one_of_lt small)
  rw [limit] at own further
  rw [same] at own
  refine ⟨limit, own, ⟨_, further, ?_⟩, fun plain =>
    (Catalog.filters_and_plain_of_statement plain translated).2⟩
  exact (Nat.min_le_left ..).trans (Nat.add_le_add_right bounds.size_le_max 1)

/-- A request for the page and the size that stand for none. -/
def ListRequest.zeros : ListRequest := { empty with page := some 0, size := some 0 }

theorem load_bounds_pages_of_zeros :
    ∃ settings selection statement, Settings.load Settings.largeDefault = .ok settings ∧
      ListRequest.zeros.selection settings.limits = .ok selection ∧
      Device.catalog.statement selection = .ok statement ∧
      selection.size.toNat = 100 ∧ settings.limits.defaultSize.toNat = 500 ∧
      statement.TakesUpTo 0 100 := by
  have loaded : Settings.load Settings.largeDefault =
      .ok { Settings.standard with limits := ⟨500, 100⟩ } := by rfl
  let selection := (ListRequest.zeros.draft ⟨500, 100⟩).build
  have selected : ListRequest.zeros.selection ⟨500, 100⟩ = .ok selection := rfl
  obtain ⟨statement, translated⟩ :
      ∃ statement, Device.catalog.statement selection = .ok statement := ⟨_, rfl⟩
  obtain ⟨bounds, limits⟩ := load_bounds_pages loaded selected
  obtain ⟨size, asked, clamped⟩ := bounds.size
  have hundred : selection.size.toNat = 100 := by
    cases asked with
    | zero => exact clamped
    | given nonzero => exact absurd rfl nonzero
  obtain ⟨-, own, -⟩ := limits _ statement translated
  rw [hundred] at own
  exact ⟨_, _, statement, loaded, selected, translated, hundred, rfl, own⟩

end Stockroom
