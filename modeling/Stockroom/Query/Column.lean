import Stockroom.Query.Value
import Stockroom.Text.Numeral
import Stockroom.Time.Reading

/-!
# Columns

Field names reach the database only through a catalog.  A registered field has a
column of its own; every other name stands for the fallback column.  The kind of
a column says how a text is read when it is compared with the column.
-/

namespace Stockroom

inductive Kind where
  | text
  | timestamp
  | integer
  | uuid
  deriving DecidableEq, Repr

/-- A text that is no value of the kind asked for. -/
structure Unreadable where
  kind : Kind
  text : String
  deriving DecidableEq, Repr

namespace Kind

def word : Kind → String
  | .text => "text"
  | .timestamp => "timestamp"
  | .integer => "integer"
  | .uuid => "uuid"

def read? (kind : Kind) (text : String) : Option Value :=
  match kind with
  | .text => some (.text text)
  | .timestamp => (Instant.parse? text).map .instant
  | .integer => (Text.readInt64 (Text.trimChars text.toList)).toOption.map .int
  | .uuid => (Uuid.parse? text).map .uuid

/-- A text becomes a value of the kind; every other value stays as it is. -/
def coerce (kind : Kind) : Value → Except Unreadable Value
  | .text s =>
      match kind.read? s with
      | some value => .ok value
      | none => .error ⟨kind, s⟩
  | value => .ok value

end Kind

def Unreadable.message (fault : Unreadable) : String :=
  "invalid " ++ fault.kind.word ++ " '" ++ fault.text ++ "'"

structure Column where
  name : String
  kind : Kind
  deriving DecidableEq, Repr

/-- The columns that queries may name; the latest registration of a field stands first. -/
structure Catalog where
  id : Column
  fallback : Column
  fields : List (String × Column)
  deriving Repr

namespace Catalog

/-- A catalog without registered fields. -/
def ofColumns (id fallback : Column) : Catalog := ⟨id, fallback, []⟩

def register (catalog : Catalog) (field : String) (column : Column) : Catalog :=
  { catalog with fields := (field, column) :: catalog.fields }

/-- The column of a registered field. -/
def column? (catalog : Catalog) (field : String) : Option Column :=
  catalog.fields.lookup field

def resolve (catalog : Catalog) (field : String) : Column :=
  (catalog.column? field).getD catalog.fallback

theorem column?_register_of_ne (catalog : Catalog) {field other : String}
    (column : Column) (h : other ≠ field) :
    (catalog.register field column).column? other = catalog.column? other := by
  have hne : (other == field) = false := by simpa using h
  simp [register, column?, List.lookup_cons, hne]

end Catalog

/-- A field without a column of its own, and the column that stood in. -/
structure Fallback where
  field : String
  column : String
  deriving DecidableEq, Repr

def Fallback.message (fallback : Fallback) : String :=
  "unknown field '" ++ fallback.field ++ "' mapped to '" ++ fallback.column ++ "'"

end Stockroom
