import Stockroom.Device.State

/-!
# Faults of the database

What a database access can end in besides an answer.
-/

namespace Stockroom

inductive DatabaseFault where
  | rowNotFound
  /-- The database refuses the statement; the code is the one of the SQL standard. -/
  | refused (code : Option String) (message : String)
  | poolTimedOut
  | poolClosed
  /-- A row holds a state that is none. -/
  | unreadableState (fault : UnknownState)
  deriving DecidableEq, Repr

namespace DatabaseFault

/-- The code of a statement that would store a key twice. -/
def uniqueViolation : String := "23505"

def message : DatabaseFault → String
  | .rowNotFound =>
      "no rows returned by a query that expected to return at least one row"
  | .refused _ message => "error returned from database: " ++ message
  | .poolTimedOut => "pool timed out while waiting for an open connection"
  | .poolClosed => "attempted to acquire a connection on a closed pool"
  | .unreadableState fault => "error occurred while decoding: " ++ fault.message

end DatabaseFault

end Stockroom
