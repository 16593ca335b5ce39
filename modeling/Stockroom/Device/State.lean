/-!
# Device states

A device is available, in use or inactive.  Each state has one word, which
stands for it in the table, in JSON texts and on the command line.
-/

namespace Stockroom

inductive DeviceState where
  | available
  | inUse
  | inactive
  deriving DecidableEq, Repr

/-- A text that is the word of no state. -/
structure UnknownState where
  text : String
  deriving DecidableEq, Repr

def UnknownState.message (fault : UnknownState) : String :=
  "unknown device state '" ++ fault.text ++ "' (expected available, in-use or inactive)"

namespace DeviceState

/-- A device is available unless it is said otherwise. -/
def initial : DeviceState := .available

def states : List DeviceState := [.available, .inUse, .inactive]

def word : DeviceState → String
  | .available => "available"
  | .inUse => "in-use"
  | .inactive => "inactive"

def ofWord? (word : String) : Option DeviceState :=
  states.find? fun state => state.word == word

def parse (text : String) : Except UnknownState DeviceState :=
  match ofWord? text with
  | some state => .ok state
  | none => .error ⟨text⟩

@[simp] theorem ofWord?_word (state : DeviceState) : ofWord? state.word = some state := by
  cases state <;> rfl

end DeviceState

end Stockroom
