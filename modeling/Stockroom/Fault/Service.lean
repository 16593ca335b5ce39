import Stockroom.Fault.Store

/-!
# Faults of the service

The faults of all layers as the service reports them: a class with a stable
code, whether the caller is to blame, and a message.
-/

namespace Stockroom

inductive ServiceFault where
  | notFound (entity id : String)
  | duplicate (message : String)
  | invalidInput (message : String)
  | validation (complaints : Complaints)
  | database (message : String)
  | configuration (message : String)
  deriving DecidableEq, Repr

namespace ServiceFault

def code : ServiceFault → String
  | .notFound .. => "not_found"
  | .duplicate _ => "duplicate"
  | .invalidInput _ => "invalid_input"
  | .validation _ => "validation_failed"
  | .database _ => "database_error"
  | .configuration _ => "configuration_error"

/-- The caller can avoid the fault by asking for something else. -/
def isCallerFault : ServiceFault → Bool
  | .database _ | .configuration _ => false
  | _ => true

def message : ServiceFault → String
  | .notFound entity id => "Not found: " ++ entity ++ " with id=" ++ id
  | .duplicate message => "Already exists: " ++ message
  | .invalidInput message => "Invalid input: " ++ message
  | .validation complaints => "Validation failed: " ++ complaints.message
  | .database message => "Database error: " ++ message
  | .configuration message => "Configuration error: " ++ message

/-! ## Faults of the other layers -/

def ofQuery (fault : QueryFault) : ServiceFault := .invalidInput fault.message

def ofStore : StoreFault → ServiceFault
  | .notFound entity id => .notFound entity id
  | .duplicate message => .duplicate message
  | .invalidCursor cause => .invalidInput ("invalid cursor: " ++ cause.reason)
  | .invalidFilter field cause => .invalidInput (QueryFault.invalidValue field cause).message
  | .validation complaints => .validation complaints
  | .database cause => .database cause.message

end ServiceFault

end Stockroom
