import Stockroom.CommandLine.Command
import Stockroom.Inventory.Listing
import Stockroom.Inventory.Schema
import Stockroom.Settings

/-!
# Previews

What a command would ask of the database, shown without one: the statements of a
list, the fields of a form, the identifier of a device.  Input that the
repository refuses is refused here in the same words.
-/

namespace Stockroom.CommandLine

/-- The statements behind a list request and the values of their slots. -/
def previewList (request : ListRequest) (limits : PageLimits) : Except StoreFault Json := do
  let selection ← (request.selection limits).mapError .invalidCursor
  let statement ← (Device.catalog.statement selection).mapError StoreFault.ofQuery
  return .object [
    ("count", .text (statement.countText Device.tableName)),
    ("rows", .text (statement.rowsText Device.tableName "*" statement.lookAhead)),
    ("params", .array (statement.params.map Value.json))]

def previewForm (form : DeviceForm) : Except StoreFault Json := do
  form.validate.mapError .validation
  return form.json

def previewPatch (patch : DevicePatch) : Except ServiceFault Json := do
  if patch.isEmpty then
    throw (.invalidInput "Nothing to change: pass --name, --brand or --state")
  (patch.validate.mapError StoreFault.validation).mapError ServiceFault.ofStore
  return patch.json

def aboutDevice (id : Uuid) (members : List (String × Json)) : Json :=
  .object (("id", .text id.render) :: members)

def Command.preview (limits : PageLimits) : Command → Except ServiceFault Json
  | .list request => (previewList request limits).mapError .ofStore
  | .get id | .delete id => .ok (aboutDevice id [])
  | .create form => (previewForm form).mapError .ofStore
  | .replace id form => do
      return aboutDevice id [("fields", ← (previewForm form).mapError .ofStore)]
  | .patch id changes => do return aboutDevice id [("fields", ← previewPatch changes)]
  | .initSchema => .ok (.text schema)

/-! ## Faults of usage -/

def UsageFault.message : UsageFault → String
  | .help =>
      "usage: inventory list | get | create | replace | patch | delete | init-schema | help"
  | .version => "inventory 0.1.0"
  | .noCommand => "a command is missing"
  | .unknownCommand => "unknown command"
  | .unknownArgument => "unexpected argument"
  | .missingValue => "an option lacks its value"
  | .needlessValue => "a flag takes no value"
  | .badValue => "invalid value"
  | .repeatedOption => "an option is given twice"
  | .missingArgument => "an argument is missing"

/-- Help and version are what was asked for. -/
def UsageFault.isRequest : UsageFault → Bool
  | .help | .version => true
  | _ => false

end Stockroom.CommandLine
