import Stockroom.Proofs.Inventory.Acceptance
import Stockroom.Proofs.Inventory.Continuation

/-!
# Calls to the table

Every access to the table can be noted in a log before it is made.  What a
repository refuses for its input leaves the log as it is, and a list notes one
count and, behind it, one fetch.
-/

namespace Stockroom

inductive Call where
  | count (statement : Statement)
  | fetch (statement : Statement) (extra : UInt32)
  | countAll
  | find (id : Uuid)
  | contains (id : Uuid)
  | insert (form : DeviceForm)
  | overwrite (id : Uuid) (form : DeviceForm)
  | change (id : Uuid) (patch : DevicePatch)
  | remove (id : Uuid)
  deriving Repr

variable {m : Type → Type} [Monad m] {ε α β : Type}

/-! ## Logs -/

def noted (call : Call) (run : ExceptT ε m α) : ExceptT ε (StateT (List Call) m) α :=
  ExceptT.mk do
    modify fun log => log ++ [call]
    StateT.lift run.run

/-- How a run ends, and the log that it leaves behind. -/
def traced (run : ExceptT ε (StateT (List Call) m) α) (log : List Call) :
    m (Except ε α × List Call) :=
  run.run.run log

/-- The same queries, with every call noted. -/
def Queries.logged (queries : Queries m) : Queries (StateT (List Call) m) where
  count statement := noted (.count statement) (queries.count statement)
  fetch statement extra := noted (.fetch statement extra) (queries.fetch statement extra)

/-- The same table, with every call noted. -/
def Table.logged (table : Table m) : Table (StateT (List Call) m) where
  countMatching statement := noted (.count statement) (table.countMatching statement)
  fetchRows statement extra := noted (.fetch statement extra) (table.fetchRows statement extra)
  countAll := noted .countAll table.countAll
  find id := noted (.find id) (table.find id)
  contains id := noted (.contains id) (table.contains id)
  insert form := noted (.insert form) (table.insert form)
  overwrite id form := noted (.overwrite id form) (table.overwrite id form)
  change id patch := noted (.change id patch) (table.change id patch)
  remove id := noted (.remove id) (table.remove id)

@[simp] theorem traced_noted [LawfulMonad m] (call : Call) (run : ExceptT ε m α)
    (log : List Call) :
    traced (noted call run) log = do return (← run.run, log ++ [call]) := by
  simp [traced, noted]

theorem traced_bind (run : ExceptT ε (StateT (List Call) m) α)
    (next : α → ExceptT ε (StateT (List Call) m) β) (log : List Call) :
    traced (run >>= next) log = do
      match ← traced run log with
      | (.ok a, log) => traced (next a) log
      | (.error fault, log) => return (.error fault, log) := by
  rw [traced, ExceptT.run_bind, StateT.run_bind]
  refine bind_congr fun ⟨result, log⟩ => ?_
  cases result <;> rfl

/-! ## Refusals -/

/-- The run ends in the fault, and no call is made. -/
def Refuses (run : ExceptT ε (StateT (List Call) m) α) (fault : ε) : Prop :=
  ∀ log, traced run log = pure (.error fault, log)

theorem refuses_throw (fault : ε) : Refuses (m := m) (α := α) (throw fault) fault := fun _ => rfl

namespace Repository

variable [LawfulMonad m] {repository : Repository (StateT (List Call) m)} {complaints : Complaints}

theorem refuses_check (fault : StoreFault)
    (next : α → ExceptT StoreFault (StateT (List Call) m) β) :
    Refuses (check (.error fault) >>= next) fault := by
  rw [check_error_bind]
  exact refuses_throw fault

theorem refuses_create {form : DeviceForm} (h : form.validate = .error complaints) :
    Refuses (repository.create form) (.validation complaints) := by
  rw [create, checkComplaints, h]
  exact refuses_check _ _

theorem refuses_replace {form : DeviceForm} (h : form.validate = .error complaints) (id : Uuid) :
    Refuses (repository.replace id form) (.validation complaints) := by
  rw [replace, checkComplaints, h]
  exact refuses_check _ _

theorem refuses_update {patch : DevicePatch} (h : patch.validate = .error complaints)
    (id : Uuid) : Refuses (repository.update id patch) (.validation complaints) := by
  rw [update, checkComplaints, h]
  exact refuses_check _ _

theorem refuses_list {request : ListRequest} {token : String} {cause : CursorFault}
    (hcursor : request.cursor = some token) (htoken : Cursor.ofToken token = .error cause) :
    Refuses (repository.list request) (.invalidCursor cause) := by
  have selected := ListRequest.selection_of_token hcursor repository.limits
  rw [htoken] at selected
  rw [list_eq, ListRequest.answer_of_selection_error selected]
  exact refuses_throw _

end Repository

/-! ## Lists -/

theorem Catalog.lookAhead_eq {catalog : Catalog} {selection : Selection} {statement : Statement}
    (h : catalog.statement selection = .ok statement) :
    statement.lookAhead = if selection.cursor.isSome then 1 else 0 := by
  cases hcursor : selection.cursor with
  | none => exact (pages_of_statement hcursor h).lookAhead_eq
  | some cursor => exact (pagesBeyond_of_statement hcursor h).lookAhead_eq

theorem Page.traced_list [LawfulMonad m] {queries : Queries m} {catalog : Catalog}
    {selection : Selection} {statement : Statement}
    (h : catalog.statement selection = .ok statement) (log : List Call) :
    traced (list queries.logged catalog selection) log = do
      match ← (queries.count statement).run with
      | .error fault => return (.error fault, log ++ [.count statement])
      | .ok total =>
          let rows ← (queries.fetch statement statement.lookAhead).run
          return (rows.map (assemble selection statement total),
            log ++ [.count statement, .fetch statement statement.lookAhead]) := by
  rw [list_of_statement h, traced_bind, Queries.logged, traced_noted, bind_assoc]
  refine bind_congr fun counted => ?_
  rw [pure_bind]
  cases counted with
  | error fault => rfl
  | ok total =>
      dsimp only
      rw [traced_bind, traced_noted, bind_assoc]
      refine bind_congr fun fetched => ?_
      rw [pure_bind, List.append_assoc]
      cases fetched with
      | error fault => rfl
      | ok rows => rfl

/--
What is refused for its input is refused before any call.  A list that is not
makes one call for the count and, if there is a count, one for the rows of the
same statement, with one row more behind a cursor; a fault of either call is the
fault of the list.
-/
theorem input_checked_before_calls [LawfulMonad m] (table : Table m) (limits : PageLimits)
    (queries : Queries m) :
    (∀ (form : DeviceForm) (complaints : Complaints), form.validate = .error complaints →
      Refuses (Repository.create ⟨table.logged, limits⟩ form) (.validation complaints) ∧
      ∀ id, Refuses (Repository.replace ⟨table.logged, limits⟩ id form)
        (.validation complaints)) ∧
    (∀ (id : Uuid) (patch : DevicePatch) (complaints : Complaints),
      patch.validate = .error complaints →
        Refuses (Repository.update ⟨table.logged, limits⟩ id patch) (.validation complaints)) ∧
    (∀ (request : ListRequest) (token : String) (cause : CursorFault),
      request.cursor = some token → Cursor.ofToken token = .error cause →
        Refuses (Repository.list ⟨table.logged, limits⟩ request) (.invalidCursor cause)) ∧
    ∀ (catalog : Catalog) (selection : Selection),
      match catalog.statement selection with
      | .error (.invalidCursor cause) =>
          Refuses (Page.list queries.logged catalog selection) (.invalidCursor cause)
      | .error (.invalidValue field cause) =>
          Refuses (Page.list queries.logged catalog selection) (.invalidFilter field cause)
      | .ok statement =>
          let extra := if selection.cursor.isSome then 1 else 0
          ∀ log, traced (Page.list queries.logged catalog selection) log = do
            match ← (queries.count statement).run with
            | .error fault => return (.error fault, log ++ [.count statement])
            | .ok total =>
                let rows ← (queries.fetch statement extra).run
                return (rows.map (Page.assemble selection statement total),
                  log ++ [.count statement, .fetch statement extra]) := by
  refine ⟨fun form complaints h => ⟨Repository.refuses_create h, Repository.refuses_replace h⟩,
    fun id patch complaints h => Repository.refuses_update h id,
    fun request token cause hcursor htoken => Repository.refuses_list hcursor htoken,
    fun catalog selection => ?_⟩
  cases hstatement : catalog.statement selection with
  | error fault =>
      cases fault with
      | invalidCursor cause =>
          dsimp only
          rw [Page.list_of_error hstatement]
          exact refuses_throw _
      | invalidValue field cause =>
          dsimp only
          rw [Page.list_of_error hstatement]
          exact refuses_throw _
  | ok statement =>
      dsimp only
      intro log
      rw [← Catalog.lookAhead_eq hstatement]
      exact Page.traced_list hstatement log

/-- A form without a name, a blank token, and the first page of a stock of one. -/
theorem input_checked_before_calls_of_twin :
    Refuses (m := Id) (Repository.create ⟨Table.closed.logged, .standard⟩
      ⟨"", "acme", .available⟩) (.validation ⟨[("name", ["length"])]⟩) ∧
    Refuses (m := Id) (Repository.list ⟨Table.closed.logged, .standard⟩
      { ListRequest.empty with cursor := some " " }) (.invalidCursor .emptyToken) ∧
    ∃ statement, Device.catalog.statement (.single [] none) = .ok statement ∧
      traced (Page.list (Queries.logged (.constant 1 [.twin .nil])) Device.catalog
          (.single [] none)) [] =
        pure (.ok (Page.assemble (.single [] none) statement 1 [.twin .nil]),
          [.count statement, .fetch statement 0]) := by
  obtain ⟨create, -, list, page⟩ := input_checked_before_calls (m := Id) Table.closed .standard
    (.constant 1 [.twin .nil])
  have translated : ∃ statement, Device.catalog.statement (.single [] none) = .ok statement :=
    ⟨_, rfl⟩
  obtain ⟨statement, hstatement⟩ := translated
  have listed := page Device.catalog (.single [] none)
  rw [hstatement] at listed
  exact ⟨(create _ _ rfl).1, list _ _ _ rfl rfl, statement, hstatement, listed []⟩

end Stockroom
