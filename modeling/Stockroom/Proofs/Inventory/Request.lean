import Stockroom.Inventory.ListRequest
import Stockroom.Proofs.Database.Basic
import Stockroom.Proofs.Query.Draft

/-!
# What a request selects

Brands and states are alternatives, and they are lowered to a test for equality,
to a membership or to a disjunction, depending on how many there are.  In every
form the condition asks the same of a device.
-/

namespace Stockroom

/-! ## Texts in columns -/

/--
Equality and membership compare the whole text of a column.  How other tests come
out, a search among them, is left open.
-/
structure Device.ComparesTexts (device : Device) (judge : Sql.Test Value → Truth) : Prop where
  equal : ∀ column stored text, device.columnValue column = .text stored →
    judge (.compare column .equal (.text text)) = .ofBool (stored = text)
  member : ∀ column stored first others, device.columnValue column = .text stored →
    judge (.member column (.text first) (others.map .text)) = .ofBool (stored ∈ first :: others)

/-- The field has a column of its own, which holds texts. -/
def Catalog.HasTexts (catalog : Catalog) (field : String) : Prop :=
  ∃ column, catalog.column? field = some column ∧ column.kind = .text

/-- A text for a column of texts is compared as it is. -/
theorem Catalog.HasTexts.operand {catalog : Catalog} {field : String}
    (h : catalog.HasTexts field) (text : String) :
    catalog.operand field (.text text) = .ok (.text text) := by
  obtain ⟨column, hcolumn, hkind⟩ := h
  rw [Catalog.operand, hcolumn]
  simp only [Kind.coerce, hkind, Kind.read?]
  rfl

namespace Device

theorem brand_hasTexts : catalog.HasTexts "brand" := ⟨_, rfl, rfl⟩

theorem state_hasTexts : catalog.HasTexts "state" := ⟨_, rfl, rfl⟩

/-- The device has a text in the column of the field. -/
structure Stores (device : Device) (field stored : String) : Prop where
  texts : catalog.HasTexts field
  value : device.columnValue (catalog.resolve field).name = .text stored

theorem stores_brand (device : Device) : device.Stores "brand" device.brand :=
  ⟨brand_hasTexts, rfl⟩

theorem stores_state (device : Device) : device.Stores "state" device.state.word :=
  ⟨state_hasTexts, rfl⟩

variable {device : Device} {judge : Sql.Test Value → Truth} {field stored : String}

theorem Stores.coerced (h : device.Stores field stored) (text : String) :
    catalog.coerced field (.text text) = .text text :=
  Catalog.coerced_of_operand (h.texts.operand text)

theorem Stores.truth_eq (h : device.Stores field stored) (hjudge : device.ComparesTexts judge)
    (text : String) :
    (Condition.eq field (.text text)).truth catalog judge = .ofBool (stored = text) := by
  rw [Condition.truth, h.coerced, hjudge.equal _ _ _ h.value]

theorem Stores.truth_oneOf (h : device.Stores field stored) (hjudge : device.ComparesTexts judge)
    (first : String) (others : List String) :
    (Condition.oneOf field ((first :: others).map .text)).truth catalog judge =
      .ofBool (stored ∈ first :: others) := by
  have coerced : (others.map Value.text).map (catalog.coerced field) = others.map .text := by
    rw [List.map_map]
    exact List.map_congr_left fun text _ => h.coerced text
  rw [List.map_cons, Condition.truth, h.coerced, coerced, hjudge.member _ _ _ _ h.value]

end Device

theorem DeviceState.word_injective : Function.Injective word := by
  intro a b h
  apply Option.some.inj
  rw [← ofWord?_word a, h, ofWord?_word]

namespace ListRequest

variable {device : Device} {judge : Sql.Test Value → Truth}

/-! ## Truth of the parts -/

theorem truth_requireBrands (h : device.ComparesTexts judge) (brands : List String)
    (draft : Draft) :
    (requireBrands brands draft).truth Device.catalog judge =
      (draft.truth Device.catalog judge).and
        (.ofBool (brands = [] ∨ device.brand ∈ brands)) := by
  match brands with
  | [] => simp [requireBrands, Truth.ofBool]
  | [brand] =>
      rw [requireBrands, Draft.truth_require, device.stores_brand.truth_eq h]
      simp
  | first :: second :: rest =>
      have several : requireBrands (first :: second :: rest) draft =
          draft.require (.oneOf "brand" ((first :: second :: rest).map .text)) := rfl
      rw [several, Draft.truth_require, device.stores_brand.truth_oneOf h]
      simp

theorem truth_stateCondition (h : device.ComparesTexts judge) (state : DeviceState) :
    (stateCondition state).truth Device.catalog judge = .ofBool (device.state = state) := by
  have word : device.state.word = state.word ↔ device.state = state :=
    DeviceState.word_injective.eq_iff
  rw [stateCondition, device.stores_state.truth_eq h, decide_eq_decide.mpr word]

theorem truth_requireStates (h : device.ComparesTexts judge) (states : List DeviceState)
    (draft : Draft) :
    (requireStates states draft).truth Device.catalog judge =
      (draft.truth Device.catalog judge).and
        (.ofBool (states = [] ∨ device.state ∈ states)) := by
  match states with
  | [] => simp [requireStates, Draft.requireAny, Truth.ofBool]
  | [state] =>
      rw [requireStates, Draft.truth_require, truth_stateCondition h]
      simp
  | first :: second :: rest =>
      have several : requireStates (first :: second :: rest) draft =
          draft.requireAny ((first :: second :: rest).map stateCondition) := rfl
      have each : ((first :: second :: rest).map stateCondition).map
          (Condition.truth Device.catalog judge) =
          (first :: second :: rest).map fun state => .ofBool (device.state = state) := by
        rw [List.map_map]
        exact List.map_congr_left fun state _ => truth_stateCondition h state
      have member : ((first :: second :: rest).any fun state => device.state = state) =
          decide (device.state ∈ first :: second :: rest) := by
        rw [Bool.eq_iff_iff]
        simp
      rw [several, Draft.truth_requireAny _ _ (by simp), each, Truth.any_map_ofBool, member]
      simp

def searchTruth (judge : Sql.Test Value → Truth) : Option String → Truth
  | none => .holds
  | some keyword => judge (.search "name" (.text keyword))

theorem truth_requireKeyword (keyword : Option String) (draft : Draft) :
    (requireKeyword keyword draft).truth Device.catalog judge =
      (draft.truth Device.catalog judge).and (searchTruth judge keyword) := by
  cases keyword with
  | none => exact (Truth.and_holds _).symm
  | some keyword => exact Draft.truth_require _ _ _ _

theorem truth_draft (h : device.ComparesTexts judge) (request : ListRequest)
    (limits : PageLimits) :
    (request.draft limits).truth Device.catalog judge =
      ((Truth.ofBool (request.brands = [] ∨ device.brand ∈ request.brands)).and
        (.ofBool (request.states = [] ∨ device.state ∈ request.states))).and
          (searchTruth judge request.keyword?) := by
  rw [draft, Draft.truth_paginate, Draft.truth_foldl_orderBy, truth_requireKeyword,
    truth_requireStates h, truth_requireBrands h, Draft.truth_empty, Truth.holds_and]

/-! ## The selection of a request -/

/-- The draft with the conditions of a request and nothing else. -/
def filtered (request : ListRequest) : Draft :=
  requireKeyword request.keyword? (requireStates request.states
    (requireBrands request.brands .empty))

theorem filtered_eq (request : ListRequest) :
    request.filtered = { Draft.empty with conditions := request.filtered.conditions } := by
  have brands (draft : Draft) : requireBrands request.brands draft =
      { draft with conditions := (requireBrands request.brands draft).conditions } := by
    match request.brands with
    | [] | [_] | _ :: _ :: _ => rfl
  have states (draft : Draft) : requireStates request.states draft =
      { draft with conditions := (requireStates request.states draft).conditions } := by
    match request.states with
    | [] | [_] | _ :: _ :: _ => rfl
  have keyword (draft : Draft) : requireKeyword request.keyword? draft =
      { draft with conditions := (requireKeyword request.keyword? draft).conditions } := by
    cases request.keyword? <;> rfl
  rw [filtered, keyword, states, brands]

theorem draft_eq (request : ListRequest) (limits : PageLimits) :
    request.draft limits = Draft.paginate { Draft.empty with
      conditions := request.filtered.conditions
      sorting := (request.sortTexts.filter fun text => Text.trim text ≠ "").map SortKey.parse }
        (request.page.getD 1) (limits.size request.size) := by
  show Draft.paginate (request.sortTexts.foldl Draft.orderBy request.filtered) _ _ = _
  rw [Draft.foldl_orderBy, filtered_eq]
  rfl

theorem cursor_draft (request : ListRequest) (limits : PageLimits) :
    (request.draft limits).cursor = none := by
  rw [draft_eq]
  rfl

/-- Trimming a sort key does not change what it is read as. -/
theorem keys_trimmed {texts : List String} (h : ∀ text ∈ texts, Text.trim text ≠ "") :
    ((texts.map Text.trim).filter fun text => Text.trim text ≠ "").map SortKey.parse =
      texts.map SortKey.parse := by
  have kept : (texts.map Text.trim).filter (fun text => Text.trim text ≠ "") =
      texts.map Text.trim := by
    refine List.filter_eq_self.mpr fun text member => ?_
    obtain ⟨given, hgiven, rfl⟩ := List.mem_map.mp member
    simpa using h given hgiven
  simp only [kept, List.map_map, Function.comp_def, SortKey.parse_trim]

theorem sorting_draft (request : ListRequest) (limits : PageLimits) :
    (request.draft limits).sorting =
      match request.sort.filter fun text => Text.trim text ≠ "" with
      | [] => [⟨"createdAt", .descending⟩]
      | texts => texts.map SortKey.parse := by
  have named : (request.sort.map Text.trim).filter (· ≠ "") =
      (request.sort.filter fun text => Text.trim text ≠ "").map Text.trim := List.filter_map
  have solid : ∀ text ∈ request.sort.filter fun text => Text.trim text ≠ "",
      Text.trim text ≠ "" := fun text member => of_decide_eq_true (List.mem_filter.mp member).2
  have sorting : (request.draft limits).sorting =
      (request.sortTexts.filter fun text => Text.trim text ≠ "").map SortKey.parse := by
    rw [draft_eq]
    rfl
  rw [sorting, sortTexts, named]
  generalize request.sort.filter (fun text => Text.trim text ≠ "") = texts at solid
  cases texts with
  | nil =>
      have latest : ([defaultSort].filter fun text => Text.trim text ≠ "").map SortKey.parse =
          [⟨"createdAt", .descending⟩] := by decide
      exact latest
  | cons first rest =>
      have given := keys_trimmed solid
      rw [List.map_cons] at given ⊢
      simpa only using given

theorem selection_of_token {request : ListRequest} {token : String}
    (h : request.cursor = some token) (limits : PageLimits) :
    request.selection limits = (Cursor.ofToken token).map fun cursor =>
      { (request.draft limits).build with cursor := some cursor } := by
  unfold ListRequest.selection
  rw [h]
  dsimp only
  cases Cursor.ofToken token <;> rfl

theorem selection_of_no_token {request : ListRequest} (h : request.cursor = none)
    (limits : PageLimits) : request.selection limits = .ok (request.draft limits).build := by
  unfold ListRequest.selection
  rw [h]

theorem exists_eq_of_selection {request : ListRequest} {limits : PageLimits}
    {selection : Selection} (h : request.selection limits = .ok selection) :
    ∃ cursor, selection = { (request.draft limits).build with cursor } := by
  cases hcursor : request.cursor with
  | none =>
      rw [selection_of_no_token hcursor] at h
      exact ⟨_, (Except.ok.inj h).symm⟩
  | some token =>
      rw [selection_of_token hcursor] at h
      cases htoken : Cursor.ofToken token with
      | error fault =>
          rw [htoken] at h
          cases h
      | ok cursor =>
          rw [htoken] at h
          exact ⟨_, (Except.ok.inj h).symm⟩

theorem clauseTruth_selection {request : ListRequest} {limits : PageLimits}
    {selection : Selection} (h : request.selection limits = .ok selection)
    (hjudge : device.ComparesTexts judge) :
    Condition.clauseTruth Device.catalog judge selection.condition =
      ((Truth.ofBool (request.brands = [] ∨ device.brand ∈ request.brands)).and
        (.ofBool (request.states = [] ∨ device.state ∈ request.states))).and
          (searchTruth judge request.keyword?) := by
  obtain ⟨cursor, rfl⟩ := exists_eq_of_selection h
  rw [← truth_draft hjudge request limits, ← Draft.clauseTruth_condition?]
  rfl

/-! ## The law of a request -/

/-- What a request asks of a device; the judge decides the search. -/
structure AsksFor (request : ListRequest) (judge : Sql.Test Value → Truth) (device : Device) :
    Prop where
  brand : request.brands = [] ∨ device.brand ∈ request.brands
  state : request.states = [] ∨ device.state ∈ request.states
  keyword : ∀ keyword ∈ request.keyword, Text.trim keyword = "" ∨
    judge (.search "name" (.text (Text.trim keyword))) = .holds

theorem searchTruth_keyword? (request : ListRequest) :
    searchTruth judge request.keyword? = .holds ↔
      ∀ keyword ∈ request.keyword, Text.trim keyword = "" ∨
        judge (.search "name" (.text (Text.trim keyword))) = .holds := by
  unfold keyword?
  cases request.keyword with
  | none => simp [searchTruth]
  | some keyword =>
      by_cases blank : Text.trim keyword = "" <;> simp [blank, Option.filter, searchTruth]

/-- Requests for the same brands, states and keyword, in any order and however often. -/
structure SameFilter (request other : ListRequest) : Prop where
  brands : ∀ brand, brand ∈ request.brands ↔ brand ∈ other.brands
  states : ∀ state, state ∈ request.states ↔ state ∈ other.states
  keyword : request.keyword = other.keyword

theorem eq_nil_iff_of_mem_iff {α : Type} {items others : List α}
    (h : ∀ item, item ∈ items ↔ item ∈ others) : items = [] ↔ others = [] := by
  simp only [List.eq_nil_iff_forall_not_mem, h]

/--
The condition of a request holds of a device exactly if the request asks for it,
and it is the same for requests that differ in the order and the repetition of
brands and states.  The sort keys are those given, without the blank ones; if
there are none, the latest devices come first.
-/
theorem selection_asks_for {request : ListRequest} {limits : PageLimits} {selection : Selection}
    (h : request.selection limits = .ok selection) :
    (∀ (device : Device) (judge : Sql.Test Value → Truth), device.ComparesTexts judge →
      (Condition.clauseTruth Device.catalog judge selection.condition = .holds ↔
        request.AsksFor judge device)) ∧
    (∀ (other : ListRequest) (limits' : PageLimits) (selection' : Selection),
      other.selection limits' = .ok selection' → request.SameFilter other →
      ∀ (device : Device) (judge : Sql.Test Value → Truth), device.ComparesTexts judge →
        Condition.clauseTruth Device.catalog judge selection.condition =
          Condition.clauseTruth Device.catalog judge selection'.condition) ∧
    selection.sorting =
      match request.sort.filter fun text => Text.trim text ≠ "" with
      | [] => [⟨"createdAt", .descending⟩]
      | texts => texts.map SortKey.parse := by
  refine ⟨fun device judge hjudge => ?_, ?_, ?_⟩
  · rw [clauseTruth_selection h hjudge, Truth.and_eq_holds, Truth.and_eq_holds,
      Truth.ofBool_eq_holds, Truth.ofBool_eq_holds, decide_eq_true_iff, decide_eq_true_iff,
      searchTruth_keyword?]
    exact ⟨fun ⟨⟨brand, state⟩, keyword⟩ => ⟨brand, state, keyword⟩,
      fun asked => ⟨⟨asked.brand, asked.state⟩, asked.keyword⟩⟩
  · intro other limits' selection' hother same device judge hjudge
    have keyword : request.keyword? = other.keyword? := by
      rw [keyword?, keyword?, same.keyword]
    simp only [clauseTruth_selection h hjudge, clauseTruth_selection hother hjudge, keyword,
      same.brands, same.states, eq_nil_iff_of_mem_iff same.brands,
      eq_nil_iff_of_mem_iff same.states]
  · obtain ⟨cursor, rfl⟩ := exists_eq_of_selection h
    exact request.sorting_draft limits

/-- Every test is for the whole text of the column; a search finds what it is told to the letter. -/
def literalJudge (device : Device) : Sql.Test Value → Truth
  | .compare column _ operand => .ofBool (device.columnValue column = operand)
  | .member column first others => .ofBool (device.columnValue column ∈ first :: others)
  | .search column operand => .ofBool (device.columnValue column = operand)
  | .beyond .. => .unknown

theorem comparesTexts_literalJudge (device : Device) :
    device.ComparesTexts (literalJudge device) where
  equal := by
    intro column stored text h
    simp [literalJudge, h]
  member := by
    intro column stored first others h
    simp [literalJudge, h]

/-- Drills of one of two brands, one of them named twice, in one of two states. -/
def drills : ListRequest := { empty with
  brands := ["zeta", "acme", "zeta"]
  states := [.inUse, .available]
  keyword := some " drill\n"
  sort := ["  ", "-brand "] }

theorem selection_asks_for_drills :
    ∃ selection, drills.selection .standard = .ok selection ∧
      Condition.clauseTruth Device.catalog (literalJudge (.twin .nil)) selection.condition =
        .holds ∧
      selection.sorting = [⟨"brand", .descending⟩] := by
  have selected : drills.selection .standard = .ok (drills.draft .standard).build := rfl
  obtain ⟨asks, -, sorting⟩ := selection_asks_for selected
  refine ⟨_, selected, ?_, ?_⟩
  · refine (asks _ _ (comparesTexts_literalJudge _)).mpr ⟨.inr (by decide), .inr (by decide), ?_⟩
    intro keyword hkeyword
    obtain rfl := Option.some.inj hkeyword
    exact .inr (by decide)
  · rw [sorting]
    decide

end ListRequest

end Stockroom
