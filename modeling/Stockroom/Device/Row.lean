import Stockroom.Device.Basic
import Stockroom.Fault.Store

/-!
# Rows of the table

A row of the devices table holds the state as a text.  A row whose state is the
word of no state is no device.
-/

namespace Stockroom

structure DeviceRow where
  id : Uuid
  name : String
  brand : String
  state : String
  createdAt : Instant
  updatedAt : Instant
  deriving DecidableEq, Repr

namespace DeviceRow

def device (row : DeviceRow) : Except StoreFault Device :=
  match DeviceState.parse row.state with
  | .error fault => .error (.database (.unreadableState fault))
  | .ok state =>
      .ok ⟨row.id, row.name, row.brand, state, row.createdAt, row.updatedAt⟩

/-- The devices of all rows; the first row that is none decides. -/
def devices (rows : List DeviceRow) : Except StoreFault (List Device) :=
  rows.mapM device

end DeviceRow

end Stockroom
