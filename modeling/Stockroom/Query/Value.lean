import Stockroom.Json.Basic
import Stockroom.Time.Instant
import Stockroom.Uuid

/-!
# Query values

The values that conditions compare with and that statements bind as parameters.
-/

namespace Stockroom

inductive Value where
  | null
  | bool (value : Bool)
  | int (value : Int64)
  | float (value : Double)
  | text (value : String)
  | uuid (value : Uuid)
  | instant (value : Instant)
  deriving DecidableEq, Repr

namespace Value

/-- The value inside a token; a double without a JSON number becomes a null. -/
def json : Value → Json
  | .null => .null
  | .bool b => .bool b
  | .int i => .int i.toInt
  | .float x => if x.isFinite then .float x else .null
  | .text s => .text s
  | .uuid id => .text id.render
  | .instant t => .text t.render

def display : Value → String
  | .null => "NULL"
  | .bool b => if b then "true" else "false"
  | .int i => toString i.toInt
  | .float x => x.display
  | .text s => s
  | .uuid id => id.render
  | .instant t => t.render

/-- Equality with doubles compared as numbers. -/
def same : Value → Value → Bool
  | .float x, .float y => x.numEq y
  | a, b => a == b

end Value

end Stockroom
