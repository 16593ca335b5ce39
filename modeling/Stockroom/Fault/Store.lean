import Stockroom.Fault.Complaints
import Stockroom.Fault.Database
import Stockroom.Query.Fault

/-!
# Faults of the store

What reading or writing devices can end in: a fault of the request, found before
the database is asked, or one of the database, sorted into those that tell the
caller something and the rest.
-/

namespace Stockroom

inductive StoreFault where
  | notFound (entity id : String)
  | duplicate (message : String)
  | invalidCursor (cause : CursorFault)
  | invalidFilter (field : String) (cause : ValueFault)
  | validation (complaints : Complaints)
  | database (cause : DatabaseFault)
  deriving Repr

namespace StoreFault

/-- A missing row and a key that is already there are told apart from other faults. -/
def ofDatabase : DatabaseFault → StoreFault
  | .rowNotFound => .notFound "Row" "unknown"
  | .refused code message =>
      if code = some DatabaseFault.uniqueViolation then .duplicate message
      else .database (.refused code message)
  | fault => .database fault

def ofQuery : QueryFault → StoreFault
  | .invalidCursor cause => .invalidCursor cause
  | .invalidValue field cause => .invalidFilter field cause

def message : StoreFault → String
  | .notFound entity id => entity ++ " not found: " ++ id
  | .duplicate message => "Duplicate: " ++ message
  | .invalidCursor cause => "Invalid cursor: " ++ cause.reason
  | .invalidFilter field cause =>
      "Invalid filter: " ++ (QueryFault.invalidValue field cause).message
  | .validation complaints => "Validation error: " ++ complaints.message
  | .database cause => "Database error: " ++ cause.message

end StoreFault

end Stockroom
