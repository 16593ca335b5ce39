import Stockroom.Query.Column

/-!
# What can be wrong with a query

A query is refused for its cursor or for a filter value.  Each fault is the
cause; its wording is in `message`.
-/

namespace Stockroom

/-- Why a value inside a cursor is no value of the kind asked for. -/
inductive BoundaryFault where
  | notWhole
  | unreadable (fault : Unreadable)
  | unexpected (kind : Kind) (value : Json)
  deriving Repr

def BoundaryFault.message : BoundaryFault → String
  | .notWhole => "invalid integer"
  | .unreadable fault => fault.message
  | .unexpected kind value => "unexpected " ++ kind.word ++ " value " ++ value.render

inductive CursorFault where
  | emptyToken
  | malformedEncoding
  | malformedPayload
  | missingSortField
  | missingRowId
  | value (fault : BoundaryFault) (field : String)
  | rowId (fault : BoundaryFault)
  /-- A reason given in words by the caller. -/
  | other (reason : String)
  deriving Repr

def CursorFault.reason : CursorFault → String
  | .emptyToken => "empty token"
  | .malformedEncoding => "malformed encoding"
  | .malformedPayload => "malformed payload"
  | .missingSortField => "missing sort field"
  | .missingRowId => "missing row id"
  | .value fault field => fault.message ++ " for '" ++ field ++ "'"
  | .rowId fault => fault.message ++ " for row id"
  | .other reason => reason

inductive ValueFault where
  | unreadable (fault : Unreadable)
  /-- A reason given in words by the caller. -/
  | other (reason : String)
  deriving Repr

def ValueFault.reason : ValueFault → String
  | .unreadable fault => fault.message
  | .other reason => reason

inductive QueryFault where
  | invalidCursor (cause : CursorFault)
  | invalidValue (field : String) (cause : ValueFault)
  deriving Repr

def QueryFault.message : QueryFault → String
  | .invalidCursor cause => "Invalid cursor: " ++ cause.reason
  | .invalidValue field cause => "Invalid value for '" ++ field ++ "': " ++ cause.reason

end Stockroom
