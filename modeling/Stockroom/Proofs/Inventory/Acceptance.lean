import Stockroom.Inventory.Repository
import Stockroom.Proofs.Inventory.Request

/-!
# Which requests are answered

All that a request compares with is a text, in a column of texts or in a search,
so nothing can be wrong with its filter.  It is refused only for its cursor: for
the token, or for a value in it that is none of its column.
-/

namespace Stockroom

variable {m : Type → Type} [Monad m]

/-! ## Answers -/

/-- The answer to a request: the page of its selection. -/
def ListRequest.answer (request : ListRequest) (queries : Queries m) (limits : PageLimits) :
    ExceptT StoreFault m Page := do
  let selection ← Repository.check ((request.selection limits).mapError .invalidCursor)
  Page.list queries Device.catalog selection

theorem Repository.list_eq (repository : Repository m) (request : ListRequest) :
    repository.list request = request.answer repository.queries repository.limits := rfl

section Checks

variable [LawfulMonad m] {α β : Type}

theorem Repository.check_error_bind (fault : StoreFault) (next : α → ExceptT StoreFault m β) :
    check (.error fault) >>= next = throw fault :=
  pure_bind (Except.error fault) (ExceptT.bindCont next)

theorem Repository.check_ok_bind (a : α) (next : α → ExceptT StoreFault m β) :
    check (.ok a) >>= next = next a :=
  pure_bind (Except.ok a) (ExceptT.bindCont next)

variable {request : ListRequest} {limits : PageLimits} {queries : Queries m}

theorem ListRequest.answer_of_selection_error {cause : CursorFault}
    (h : request.selection limits = .error cause) :
    request.answer queries limits = throw (.invalidCursor cause) := by
  rw [answer, h]
  exact Repository.check_error_bind _ _

theorem ListRequest.answer_of_selection {selection : Selection}
    (h : request.selection limits = .ok selection) :
    request.answer queries limits = Page.list queries Device.catalog selection := by
  rw [answer, h]
  exact Repository.check_ok_bind _ _

end Checks

section Queries

variable {catalog : Catalog} {selection : Selection} {queries : Queries m}

theorem Page.list_of_error {fault : QueryFault} (h : catalog.statement selection = .error fault) :
    list queries catalog selection = throw (StoreFault.ofQuery fault) := by
  rw [list, h]

theorem Page.list_of_statement {statement : Statement}
    (h : catalog.statement selection = .ok statement) :
    list queries catalog selection = do
      let total ← queries.count statement
      let rows ← queries.fetch statement statement.lookAhead
      return assemble selection statement total rows := by
  rw [list, h]

end Queries

/-! ## Inputs of requests -/

namespace ListRequest

variable {request : ListRequest}

theorem inputs_requireBrands (brands : List String) (draft : Draft) :
    (requireBrands brands draft).inputs =
      draft.inputs ++ brands.map fun brand => .value "brand" (.text brand) := by
  match brands with
  | [] => exact (List.append_nil draft.inputs).symm
  | [brand] => exact draft.inputs_require _
  | first :: second :: rest =>
      have several : requireBrands (first :: second :: rest) draft =
          draft.require (.oneOf "brand" ((first :: second :: rest).map .text)) := rfl
      rw [several, Draft.inputs_require, Condition.inputs, List.map_map]
      rfl

theorem inputsOf_map_stateCondition (states : List DeviceState) :
    Condition.inputsOf (states.map stateCondition) =
      states.map fun state => .value "state" (.text state.word) := by
  induction states with
  | nil => rfl
  | cons state states ih =>
      rw [List.map_cons, Condition.inputsOf, ih]
      rfl

theorem inputs_requireStates (states : List DeviceState) (draft : Draft) :
    (requireStates states draft).inputs =
      draft.inputs ++ states.map fun state => .value "state" (.text state.word) := by
  match states with
  | [] => exact (List.append_nil draft.inputs).symm
  | [state] => exact draft.inputs_require _
  | first :: second :: rest =>
      have several : requireStates (first :: second :: rest) draft =
          draft.require (.any ((first :: second :: rest).map stateCondition)) := rfl
      rw [several, Draft.inputs_require, Condition.inputs, inputsOf_map_stateCondition]

theorem inputs_requireKeyword (keyword : Option String) (draft : Draft) :
    (requireKeyword keyword draft).inputs = draft.inputs ++ keyword.toList.map .text := by
  cases keyword with
  | none => exact (List.append_nil draft.inputs).symm
  | some keyword => exact draft.inputs_require _

/-- The brands, the states and the keyword are what the tests of a request compare with. -/
theorem inputs_draft (request : ListRequest) (limits : PageLimits) :
    (request.draft limits).inputs =
      request.brands.map (fun brand => .value "brand" (.text brand)) ++
        request.states.map (fun state => .value "state" (.text state.word)) ++
          request.keyword?.toList.map .text := by
  have filtered : (request.draft limits).inputs = request.filtered.inputs := by
    show (request.sortTexts.foldl Draft.orderBy request.filtered).inputs = _
    rw [Draft.foldl_orderBy]
    rfl
  rw [filtered, ListRequest.filtered, inputs_requireKeyword, inputs_requireStates,
    inputs_requireBrands]
  rfl

theorem bindable_draft (request : ListRequest) (limits : PageLimits) :
    Device.catalog.Bindable (Condition.clauseInputs (request.draft limits).condition?) := by
  have texts : ∀ {field : String}, Device.catalog.HasTexts field → ∀ text,
      ∃ param, Device.catalog.Binds (.value field (.text text)) param :=
    fun hfield text => ⟨_, Catalog.binds_value_iff.mpr (hfield.operand text)⟩
  intro input hinput
  rw [Draft.clauseInputs_condition?, inputs_draft, List.mem_append, List.mem_append] at hinput
  rcases hinput with (hbrand | hstate) | hkeyword
  · obtain ⟨brand, -, rfl⟩ := List.mem_map.mp hbrand
    exact texts Device.brand_hasTexts brand
  · obtain ⟨state, -, rfl⟩ := List.mem_map.mp hstate
    exact texts Device.state_hasTexts state.word
  · obtain ⟨keyword, -, rfl⟩ := List.mem_map.mp hkeyword
    exact ⟨_, rfl⟩

/-- Without its cursor a request is always translated. -/
theorem exists_statement_draft (request : ListRequest) (limits : PageLimits) :
    ∃ statement, Device.catalog.statement (request.draft limits).build = .ok statement :=
  Catalog.exists_statement_of_bindable (request.cursor_draft limits)
    (request.bindable_draft limits)

/-! ## Acceptance -/

/--
The cursor of the request, if it has one, can be read: the token, the value in it
for the column of its sort field, and the identifier.
-/
def CursorReads (request : ListRequest) : Prop :=
  ∀ token ∈ request.cursor, ∃ cursor value id,
    Cursor.ofToken token = .ok cursor ∧ Device.catalog.Continues cursor value id

theorem exists_statement_of_cursorReads (h : request.CursorReads) (limits : PageLimits) :
    ∃ selection statement, request.selection limits = .ok selection ∧
      Device.catalog.statement selection = .ok statement := by
  obtain ⟨numbered, hnumbered⟩ := request.exists_statement_draft limits
  cases hcursor : request.cursor with
  | none => exact ⟨_, numbered, selection_of_no_token hcursor limits, hnumbered⟩
  | some token =>
      obtain ⟨cursor, value, id, htoken, continues⟩ := h token hcursor
      have selected := selection_of_token hcursor limits
      rw [htoken] at selected
      have filters : Device.catalog.Filters (request.draft limits).condition? numbered :=
        Catalog.filters_of_statement hnumbered
      have translated : ∃ statement, Device.catalog.statement
          { (request.draft limits).build with cursor := some cursor } = .ok statement :=
        Catalog.exists_statement_of_continues filters rfl continues
      obtain ⟨statement, hstatement⟩ := translated
      exact ⟨_, statement, selected, hstatement⟩

variable [LawfulMonad m]

theorem answer_of_not_cursorReads (h : ¬request.CursorReads) (queries : Queries m)
    (limits : PageLimits) :
    ∃ cause, request.answer queries limits = throw (.invalidCursor cause) := by
  cases hcursor : request.cursor with
  | none =>
      have reads : request.CursorReads := by
        intro token htoken
        rw [hcursor] at htoken
        cases htoken
      exact absurd reads h
  | some token =>
      have selected := selection_of_token hcursor limits
      cases htoken : Cursor.ofToken token with
      | error cause =>
          rw [htoken] at selected
          exact ⟨cause, answer_of_selection_error selected⟩
      | ok cursor =>
          rw [htoken] at selected
          have stuck : ¬∃ value id, Device.catalog.Continues cursor value id := by
            rintro ⟨value, id, continues⟩
            refine h fun other hother => ⟨cursor, value, id, ?_, continues⟩
            obtain rfl := Option.some.inj (hcursor.symm.trans hother)
            exact htoken
          have refused : ∃ cause, Device.catalog.statement
              { (request.draft limits).build with cursor := some cursor } =
                .error (.invalidCursor cause) :=
            Catalog.statement_eq_invalidCursor rfl (request.bindable_draft limits) stuck
          obtain ⟨cause, hrefused⟩ := refused
          exact ⟨cause, (answer_of_selection selected).trans (Page.list_of_error hrefused)⟩

end ListRequest

/-! ## Queries that succeed -/

/-- Whatever has been asked before, both queries have an answer, and the count is not too large. -/
structure Queries.Succeed {σ : Type} (queries : Queries (StateM σ)) : Prop where
  count : ∀ statement state, ∃ (total : Int) (after : σ), 0 ≤ total ∧ total < 2 ^ 62 ∧
    (queries.count statement).run.run state = pure (.ok total, after)
  fetch : ∀ statement extra state, ∃ (rows : List Device) (after : σ),
    (queries.fetch statement extra).run.run state = pure (.ok rows, after)

variable {σ : Type} {queries : Queries (StateM σ)}

theorem Queries.Succeed.list (h : queries.Succeed) {catalog : Catalog} {selection : Selection}
    {statement : Statement} (hstatement : catalog.statement selection = .ok statement)
    (state : σ) :
    ∃ page after, (Page.list queries catalog selection).run.run state =
      pure (.ok page, after) := by
  obtain ⟨total, counted, -, -, hcount⟩ := h.count statement state
  obtain ⟨rows, fetched, hfetch⟩ := h.fetch statement statement.lookAhead counted
  refine ⟨Page.assemble selection statement total rows, fetched, ?_⟩
  rw [Page.list_of_statement hstatement, ExceptT.run_bind, StateT.run_bind, hcount, pure_bind]
  dsimp only
  rw [ExceptT.run_bind, StateT.run_bind, hfetch, pure_bind]
  rfl

/--
A request is answered exactly if its cursor can be read, whatever else it asks
for.  Otherwise it is refused for the cursor, and no query is run.
-/
theorem ListRequest.answer_ok_iff (h : queries.Succeed) (request : ListRequest)
    (limits : PageLimits) (state : σ) :
    ((∃ page after, (request.answer queries limits).run.run state = pure (.ok page, after)) ↔
      request.CursorReads) ∧
    (¬request.CursorReads →
      ∃ cause, (request.answer queries limits).run.run state =
        pure (.error (.invalidCursor cause), state)) := by
  have refused : ¬request.CursorReads →
      ∃ cause, (request.answer queries limits).run.run state =
        pure (.error (.invalidCursor cause), state) := by
    intro stuck
    obtain ⟨cause, hanswer⟩ := ListRequest.answer_of_not_cursorReads stuck queries limits
    exact ⟨cause, by rw [hanswer]; rfl⟩
  refine ⟨⟨?_, ?_⟩, refused⟩
  · rintro ⟨page, after, hpage⟩
    by_contra stuck
    obtain ⟨cause, hcause⟩ := refused stuck
    cases hpage.symm.trans hcause
  · intro reads
    obtain ⟨selection, statement, hselection, hstatement⟩ :=
      ListRequest.exists_statement_of_cursorReads reads limits
    rw [ListRequest.answer_of_selection hselection]
    exact h.list hstatement state

/-- Queries that find nothing, and the number of times that they were asked. -/
def Queries.metered : Queries (StateM Nat) where
  count _ := do
    modify (· + 1)
    return 0
  fetch _ _ := do
    modify (· + 1)
    return []

theorem Queries.succeed_metered : metered.Succeed where
  count _ _ := ⟨0, _, by decide, by decide, rfl⟩
  fetch _ _ _ := ⟨[], _, rfl⟩

/-- Drills behind a boundary row are listed, and those behind a time that is none are not. -/
theorem ListRequest.answer_ok_of_drills :
    (∃ page after,
      ({ drills with cursor := some ((Device.twin .nil).cursor "-brand" .next).token }.answer
        .metered .standard).run.run 0 = pure (.ok page, after)) ∧
    ∃ cause,
      ({ drills with
          cursor := some (Cursor.ofValue "-createdAt" (.text "soon") Uuid.nil.render .next).token
        }.answer .metered .standard).run.run 0 = pure (.error (.invalidCursor cause), 0) := by
  constructor
  · refine (answer_ok_iff Queries.succeed_metered _ _ _).1.mpr ?_
    intro token htoken
    obtain rfl := Option.some.inj htoken
    exact ⟨_, _, _, Device.ofToken_token_cursor _ _ (by decide),
      ⟨Device.readValue_cursor (Device.readable_twin .nil) "-brand" .next,
        Device.readId_cursor _ _ _⟩⟩
  · refine (answer_ok_iff Queries.succeed_metered _ _ _).2 ?_
    intro reads
    obtain ⟨cursor, value, id, hcursor, continues⟩ := reads _ rfl
    have given : Cursor.ofToken
          (Cursor.ofValue "-createdAt" (.text "soon") Uuid.nil.render .next).token =
        .ok (Cursor.ofValue "-createdAt" (.text "soon") Uuid.nil.render .next) :=
      Cursor.ofToken_token (by decide) (by decide) rfl rfl
    obtain rfl := Except.ok.inj (given.symm.trans hcursor)
    cases continues.value

end Stockroom
