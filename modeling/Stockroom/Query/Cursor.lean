import Stockroom.Json.Document
import Stockroom.Query.Fault
import Stockroom.Query.SortKey
import Stockroom.Text.Base64

/-!
# Cursors

A cursor remembers where a page ended: the signed sort key, the value of that
key on the boundary row, and the identifier of the row, which breaks ties.  Its
token is a JSON object with the members `f`, `v`, `id` and `d` in URL-safe
base64.  A token is read only as a whole: what it lacks is a fault.
-/

namespace Stockroom

/-- Which way to leave the boundary row, in the order of the sort key. -/
inductive Travel where
  | next
  | prev
  deriving DecidableEq, Repr

namespace Travel

def word : Travel → String
  | .next => "next"
  | .prev => "prev"

def ofWord? (word : String) : Option Travel :=
  [next, prev].find? fun travel => travel.word == word

end Travel

structure Cursor where
  /-- The sort key with its sign, as it was given. -/
  field : String
  value : Json
  id : String
  travel : Travel
  deriving Repr

namespace Cursor

def ofValue (field : String) (value : Value) (id : String) (travel : Travel) : Cursor :=
  ⟨field, value.json, id, travel⟩

/-- The sort key that the cursor continues. -/
def sortKey (cursor : Cursor) : SortKey := SortKey.parse cursor.field

def same (a b : Cursor) : Bool :=
  a.field == b.field && a.value.sameValue b.value && a.id == b.id && a.travel == b.travel

/-! ## Tokens -/

def payload (cursor : Cursor) : Json :=
  .object [("f", .text cursor.field), ("v", cursor.value), ("id", .text cursor.id),
    ("d", .text cursor.travel.word)]

def token (cursor : Cursor) : String :=
  String.ofList (Text.Base64.encode (Text.Utf8.encode cursor.payload.write))

/-- The boundary value stands in the payload object, so it may be nested one less deep. -/
def ofDocument? (document : Json.Document) : Option Cursor := do
  match ← document.record? ["f", "v", "id", "d"] 4 with
  | [some f, some v, some id, some d] =>
      some {
        field := ← f.string?
        value := ← v.json? (Json.Document.maxDepth - 1)
        id := ← id.string?
        travel := ← d.choice? Travel.ofWord? }
  | _ => none

def ofToken (token : String) : Except CursorFault Cursor := do
  let chars := Text.trimChars token.toList
  if chars.isEmpty then throw .emptyToken
  let some bytes := Text.Base64.decode? chars | throw .malformedEncoding
  let some cursor := Json.Document.ofBytes? bytes >>= ofDocument? | throw .malformedPayload
  if cursor.sortKey.field.isEmpty then throw .missingSortField
  if cursor.id.isEmpty then throw .missingRowId
  return cursor

/-! ## Values for comparison -/

/-- A JSON value as a value of the kind: numbers only where the kind is a number, else texts. -/
def readJson (kind : Kind) : Json → Except BoundaryFault Value
  | .text s => (kind.coerce (.text s)).mapError .unreadable
  | .int n =>
      if kind = .integer then
        if Int64.minValue.toInt ≤ n ∧ n ≤ Int64.maxValue.toInt then .ok (.int (Int64.ofInt n))
        else .error .notWhole
      else .error (.unexpected kind (.int n))
  | .float x =>
      if kind = .integer then .error .notWhole else .error (.unexpected kind (.float x))
  | value => .error (.unexpected kind value)

/-- The boundary value, for comparison with a column of the kind. -/
def readValue (cursor : Cursor) (kind : Kind) : Except CursorFault Value :=
  (readJson kind cursor.value).mapError fun fault => .value fault cursor.field

/-- The row identifier, for comparison with a column of the kind. -/
def readId (cursor : Cursor) (kind : Kind) : Except CursorFault Value :=
  (readJson kind (.text cursor.id)).mapError .rowId

end Cursor

end Stockroom
