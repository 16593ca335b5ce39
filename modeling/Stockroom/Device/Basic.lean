import Stockroom.Device.State
import Stockroom.Query.Cursor
import Stockroom.Time.Reading

/-!
# Devices

A device of the inventory, its JSON form, and how queries see it: the catalog of
its columns and the value that a cursor takes from it.  A field without a column
of its own stands for the time of creation in both.
-/

namespace Stockroom

structure Device where
  id : Uuid
  name : String
  brand : String
  state : DeviceState
  createdAt : Instant
  updatedAt : Instant
  deriving DecidableEq, Repr

namespace Device

def typeName : String := "Device"

def tableName : String := "devices"

/-! ## Queries -/

def catalog : Catalog :=
  (Catalog.ofColumns ⟨"id", .uuid⟩ ⟨"created_at", .timestamp⟩)
    |>.register "id" ⟨"id", .uuid⟩
    |>.register "name" ⟨"name", .text⟩
    |>.register "brand" ⟨"brand", .text⟩
    |>.register "state" ⟨"state", .text⟩
    |>.register "createdAt" ⟨"created_at", .timestamp⟩
    |>.register "updatedAt" ⟨"updated_at", .timestamp⟩

/-- The value of a field, as a cursor keeps it. -/
def fieldValue (device : Device) (field : String) : Value :=
  if field = "id" then .uuid device.id
  else if field = "name" then .text device.name
  else if field = "brand" then .text device.brand
  else if field = "state" then .text device.state.word
  else if field = "updatedAt" then .instant device.updatedAt
  else .instant device.createdAt

/-- The cursor that leaves the device by a signed sort key. -/
def cursor (device : Device) (sort : String) (travel : Travel) : Cursor :=
  .ofValue sort (device.fieldValue (SortKey.parse sort).field) device.id.render travel

/-! ## JSON -/

def json (device : Device) : Json :=
  .object [
    ("id", .text device.id.render),
    ("name", .text device.name),
    ("brand", .text device.brand),
    ("state", .text device.state.word),
    ("createdAt", .text device.createdAt.renderBrief),
    ("updatedAt", .text device.updatedAt.renderBrief)]

def fieldNames : List String :=
  ["id", "name", "brand", "state", "createdAt", "updatedAt"]

def ofDocument? (document : Json.Document) : Option Device := do
  match ← document.record? fieldNames 6 with
  | [some id, some name, some brand, some state, some created, some updated] =>
      some {
        id := ← id.string? >>= Uuid.parse?
        name := ← name.string?
        brand := ← brand.string?
        state := ← state.choice? DeviceState.ofWord?
        createdAt := ← created.string? >>= Instant.parseLoose?
        updatedAt := ← updated.string? >>= Instant.parseLoose? }
  | _ => none

end Device

end Stockroom
