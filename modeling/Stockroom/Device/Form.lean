import Stockroom.Device.State
import Stockroom.Fault.Complaints
import Stockroom.Json.Document

/-!
# Forms and patches

What a caller sends to write a device.  A form gives every field, except that a
new device is available unless it says otherwise; a patch gives only the fields
that change.  Names and brands must fit their columns: 1 to 255 characters.
-/

namespace Stockroom

/-! ## Lengths -/

def maxLength : Nat := 255

def lengthOk (text : String) : Bool :=
  1 ≤ text.length && text.length ≤ maxLength

def lengthMessage : String := "length"

/-- Complains about a text that is empty or too long. -/
def Complaints.checkLength (complaints : Complaints) (field text : String) : Complaints :=
  if lengthOk text then complaints else complaints.add field lengthMessage

/-- Accepts a record without complaints. -/
def Complaints.verdict (complaints : Complaints) : Except Complaints Unit :=
  if complaints.isEmpty then .ok () else .error complaints

/-! ## Forms -/

structure DeviceForm where
  name : String
  brand : String
  state : DeviceState
  deriving DecidableEq, Repr

namespace DeviceForm

def complaints (form : DeviceForm) : Complaints :=
  (Complaints.empty.checkLength "name" form.name).checkLength "brand" form.brand

def validate (form : DeviceForm) : Except Complaints Unit := form.complaints.verdict

def json (form : DeviceForm) : Json :=
  .object [
    ("name", .text form.name),
    ("brand", .text form.brand),
    ("state", .text form.state.word)]

def ofDocument? (document : Json.Document) : Option DeviceForm := do
  match ← document.record? ["name", "brand", "state"] 2 with
  | [some name, some brand, state] =>
      some {
        name := ← name.string?
        brand := ← brand.string?
        state := ← Json.Document.fieldOr? .initial
          (Json.Document.choice? DeviceState.ofWord?) state }
  | _ => none

end DeviceForm

/-! ## Patches -/

structure DevicePatch where
  name : Option String
  brand : Option String
  state : Option DeviceState
  deriving DecidableEq, Repr

namespace DevicePatch

def empty : DevicePatch := ⟨none, none, none⟩

/-- Changes nothing. -/
def isEmpty (patch : DevicePatch) : Bool :=
  patch.name.isNone && patch.brand.isNone && patch.state.isNone

def checkPresent (complaints : Complaints) (field : String) : Option String → Complaints
  | none => complaints
  | some text => complaints.checkLength field text

def complaints (patch : DevicePatch) : Complaints :=
  checkPresent (checkPresent .empty "name" patch.name) "brand" patch.brand

def validate (patch : DevicePatch) : Except Complaints Unit := patch.complaints.verdict

def json (patch : DevicePatch) : Json :=
  .object [
    ("name", .orNull .text patch.name),
    ("brand", .orNull .text patch.brand),
    ("state", .orNull (fun state => .text state.word) patch.state)]

def ofDocument? (document : Json.Document) : Option DevicePatch := do
  match ← document.record? ["name", "brand", "state"] 3 with
  | [name, brand, state] =>
      some {
        name := ← Json.Document.optionalField? Json.Document.string? name
        brand := ← Json.Document.optionalField? Json.Document.string? brand
        state := ← Json.Document.optionalField?
          (Json.Document.choice? DeviceState.ofWord?) state }
  | _ => none

end DevicePatch

end Stockroom
