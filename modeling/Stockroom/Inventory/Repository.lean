import Stockroom.Device.Form
import Stockroom.Device.Row
import Stockroom.Inventory.Listing

/-!
# The repository

Reading and writing devices through a table.  Input is checked first: a form or
a patch that breaks a rule, and a request that cannot be answered, never reach
the table.
-/

namespace Stockroom

/-- The accesses to the devices table, in any setting where statements are run. -/
structure Table (m : Type → Type) where
  countMatching : Statement → ExceptT DatabaseFault m Int
  fetchRows : Statement → (extra : UInt32) → ExceptT DatabaseFault m (List DeviceRow)
  countAll : ExceptT DatabaseFault m Int
  find : Uuid → ExceptT DatabaseFault m (Option DeviceRow)
  contains : Uuid → ExceptT DatabaseFault m Bool
  insert : DeviceForm → ExceptT DatabaseFault m DeviceRow
  overwrite : Uuid → DeviceForm → ExceptT DatabaseFault m (Option DeviceRow)
  change : Uuid → DevicePatch → ExceptT DatabaseFault m (Option DeviceRow)
  /-- Gives the number of rows removed. -/
  remove : Uuid → ExceptT DatabaseFault m Nat

/-- A table whose connections are closed. -/
def Table.closed {m : Type → Type} [Monad m] : Table m where
  countMatching _ := throw .poolClosed
  fetchRows _ _ := throw .poolClosed
  countAll := throw .poolClosed
  find _ := throw .poolClosed
  contains _ := throw .poolClosed
  insert _ := throw .poolClosed
  overwrite _ _ := throw .poolClosed
  change _ _ := throw .poolClosed
  remove _ := throw .poolClosed

structure Repository (m : Type → Type) where
  table : Table m
  limits : PageLimits

namespace Repository

variable {m : Type → Type} [Monad m]

/-- An access whose faults are sorted for the caller. -/
def access {α : Type} (run : ExceptT DatabaseFault m α) : ExceptT StoreFault m α :=
  ExceptT.adapt StoreFault.ofDatabase run

/-- A check that is made before any access. -/
def check {α : Type} (result : Except StoreFault α) : ExceptT StoreFault m α :=
  ExceptT.mk (pure result)

def checkComplaints (result : Except Complaints Unit) : ExceptT StoreFault m Unit :=
  check (result.mapError .validation)

def device (row : DeviceRow) : ExceptT StoreFault m Device := check row.device

/-- The device of a row that must exist. -/
def existing (id : Uuid) : Option DeviceRow → ExceptT StoreFault m Device
  | none => throw (.notFound Device.typeName id.render)
  | some row => device row

/-! ## Reading -/

def queries (repository : Repository m) : Queries m where
  count statement := access (repository.table.countMatching statement)
  fetch statement extra := do
    check (DeviceRow.devices (← access (repository.table.fetchRows statement extra)))

def listBy (repository : Repository m) (selection : Selection) : ExceptT StoreFault m Page :=
  Page.list repository.queries Device.catalog selection

def list (repository : Repository m) (request : ListRequest) : ExceptT StoreFault m Page := do
  let selection ← check ((request.selection repository.limits).mapError .invalidCursor)
  repository.listBy selection

def find (repository : Repository m) (id : Uuid) : ExceptT StoreFault m (Option Device) := do
  match ← access (repository.table.find id) with
  | none => return none
  | some row => return some (← device row)

def get (repository : Repository m) (id : Uuid) : ExceptT StoreFault m Device := do
  match ← repository.find id with
  | none => throw (.notFound Device.typeName id.render)
  | some device => return device

def contains (repository : Repository m) (id : Uuid) : ExceptT StoreFault m Bool :=
  access (repository.table.contains id)

def count (repository : Repository m) : ExceptT StoreFault m Int :=
  access repository.table.countAll

/-! ## Writing -/

def create (repository : Repository m) (form : DeviceForm) : ExceptT StoreFault m Device := do
  checkComplaints form.validate
  device (← access (repository.table.insert form))

def replace (repository : Repository m) (id : Uuid) (form : DeviceForm) :
    ExceptT StoreFault m Device := do
  checkComplaints form.validate
  existing id (← access (repository.table.overwrite id form))

def update (repository : Repository m) (id : Uuid) (patch : DevicePatch) :
    ExceptT StoreFault m Device := do
  checkComplaints patch.validate
  existing id (← access (repository.table.change id patch))

def delete (repository : Repository m) (id : Uuid) : ExceptT StoreFault m Unit := do
  let removed ← access (repository.table.remove id)
  if removed = 0 then throw (.notFound Device.typeName id.render)

end Repository

end Stockroom
