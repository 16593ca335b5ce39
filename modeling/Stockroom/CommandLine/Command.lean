import Stockroom.CommandLine.Intake
import Stockroom.Device.Form
import Stockroom.Inventory.ListRequest
import Stockroom.Text.Numeral
import Stockroom.Uuid

/-!
# Commands

The commands of the inventory, and the command lines that stand for them.
-/

namespace Stockroom.CommandLine

inductive Command where
  | list (request : ListRequest)
  | get (id : Uuid)
  | create (form : DeviceForm)
  | replace (id : Uuid) (form : DeviceForm)
  | patch (id : Uuid) (changes : DevicePatch)
  | delete (id : Uuid)
  | initSchema
  deriving DecidableEq, Repr

/-! ## Rules of the list command -/

/-- A number of 32 bits; minus zero is zero. -/
def readSize? (text : String) : Option UInt32 :=
  match Text.readInt64 text.toList with
  | .ok n =>
      if 0 ≤ n.toInt ∧ n.toInt < UInt32.size then some (UInt32.ofNat n.toInt.toNat) else none
  | .error _ => none

def listRules : Rules ListRequest where
  placed := none
  options := [
    ⟨"brand", true, false, fun text request =>
      some { request with brands := request.brands ++ [text] }⟩,
    ⟨"state", true, false, fun text request => do
      let state ← DeviceState.ofWord? text
      some { request with states := request.states ++ [state] }⟩,
    ⟨"keyword", false, false, fun text request => some { request with keyword := text }⟩,
    ⟨"sort", true, true, fun text request =>
      some { request with sort := request.sort ++ [text] }⟩,
    ⟨"page", false, false, fun text request => do
      some { request with page := ← readSize? text }⟩,
    ⟨"size", false, false, fun text request => do
      some { request with size := ← readSize? text }⟩,
    ⟨"cursor", false, false, fun text request => some { request with cursor := text }⟩]

/-! ## Rules of the commands about one device -/

/-- A device named on the command line, and what is said about it. -/
structure Target where
  id : Option Uuid
  fields : DevicePatch
  deriving DecidableEq, Repr

namespace Target

def none : Target := ⟨.none, .empty⟩

def storeId (text : String) (target : Target) : Option Target := do
  some { target with id := ← Uuid.parse? text }

/-- The form of a device whose name and brand are given. -/
def form? (target : Target) : Option DeviceForm := do
  some ⟨← target.fields.name, ← target.fields.brand, target.fields.state.getD .initial⟩

end Target

def fieldRules : List (OptionRule Target) :=
  [⟨"name", false, false, fun text target =>
      some { target with fields.name := text }⟩,
   ⟨"brand", false, false, fun text target =>
      some { target with fields.brand := text }⟩,
   ⟨"state", false, false, fun text target => do
      some { target with fields.state := ← DeviceState.ofWord? text }⟩]

/-- Collects a target and makes a command of it; nothing means that an argument is missing. -/
def readTarget (rules : Rules Target) (command? : Target → Option Command)
    (words : List String) : Except UsageFault Command := do
  match command? (← Intake.collect rules .none words) with
  | some command => return command
  | none => throw .missingArgument

/-! ## The commands by their names -/

abbrev Reader := List String → Except UsageFault Command

def readers : List (String × Reader) :=
  [("list", fun words => return .list (← Intake.collect listRules .empty words)),
   ("get", readTarget ⟨[], some Target.storeId⟩ fun target => do
      some (.get (← target.id))),
   ("create", readTarget ⟨fieldRules, none⟩ fun target => do
      some (.create (← target.form?))),
   ("replace", readTarget ⟨fieldRules, some Target.storeId⟩ fun target => do
      some (.replace (← target.id) (← target.form?))),
   ("patch", readTarget ⟨fieldRules, some Target.storeId⟩ fun target => do
      some (.patch (← target.id) target.fields)),
   ("delete", readTarget ⟨[], some Target.storeId⟩ fun target => do
      some (.delete (← target.id))),
   ("init-schema", readTarget ⟨[], none⟩ fun _ => some .initSchema)]

/-- A command, or the word that asks for help about one. -/
def isCommandWord (word : String) : Bool :=
  word == "help" || (readers.lookup word).isSome

/-- What `help` answers to the words behind it. -/
def helpFault : List String → UsageFault
  | [] => .help
  | [word] => if isCommandWord word then .help else .unknownCommand
  | _ => .unknownCommand

/-- What a lone `--` in the place of a command ends in. -/
def markFault : List String → UsageFault
  | [] => .noCommand
  | word :: _ => if isCommandWord word then .unknownArgument else .unknownCommand

/-- What a long option in the place of a command ends in. -/
def longFault (text : List Char) : UsageFault :=
  let (name, attached) := Intake.splitLong text
  if name = "help" ∨ name = "version" then
    if attached.isSome then .needlessValue
    else if name = "help" then .help
    else .version
  else .unknownArgument

def shortFault : List Char → UsageFault
  | 'h' :: _ => .help
  | 'V' :: _ => .version
  | _ => .unknownArgument

def Command.parse : List String → Except UsageFault Command
  | [] => .error .noCommand
  | word :: words =>
      match readers.lookup word with
      | some read => read words
      | none =>
          if word = "help" then .error (helpFault words)
          else
            match word.toList with
            | ['-', '-'] => .error (markFault words)
            | '-' :: '-' :: text => .error (longFault text)
            | '-' :: c :: text => .error (shortFault (c :: text))
            | _ => .error .unknownCommand

end Stockroom.CommandLine
