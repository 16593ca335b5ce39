import Stockroom.Query.Selection
import Stockroom.Query.Sql

/-!
# Lowering conditions

A condition is lowered to a predicate by resolving its fields through a catalog
and binding its operands as parameters.  The bindings collect both the
parameters and the fields that had no column of their own; what was bound before
a fault stays bound.
-/

namespace Stockroom

structure Bindings where
  params : List Value
  fallbacks : List Fallback
  deriving Repr

namespace Bindings

def empty : Bindings := ⟨[], []⟩

/-- Appends a parameter. -/
def push (bindings : Bindings) (value : Value) : Bindings :=
  { bindings with params := bindings.params ++ [value] }

/-- Records the use of a field that has no column of its own. -/
def note (bindings : Bindings) (fallback : Fallback) : Bindings :=
  { bindings with fallbacks := bindings.fallbacks ++ [fallback] }

end Bindings

/-- A computation that grows bindings and may end in a fault. -/
abbrev Lowering (α : Type) := ExceptT QueryFault (StateM Bindings) α

namespace Lowering

/-- Binds a value and gives the number of its slot. -/
def bind (value : Value) : Lowering Nat := do
  modify fun bindings => bindings.push value
  return (← get).params.length

/-- The column of a field; a field without one is recorded. -/
def column (catalog : Catalog) (field : String) : Lowering Column := do
  match catalog.column? field with
  | some column => return column
  | none =>
      modify fun bindings => bindings.note ⟨field, catalog.fallback.name⟩
      return catalog.fallback

end Lowering

namespace Catalog

/-- An operand as its column compares it; for a field without a column it stays as it is. -/
def operand (catalog : Catalog) (field : String) (value : Value) :
    Except QueryFault Value :=
  match catalog.column? field with
  | none => .ok value
  | some column =>
      (column.kind.coerce value).mapError fun fault =>
        .invalidValue field (.unreadable fault)

end Catalog

namespace Condition

/-- Binds the operands of a membership test one by one. -/
def lowerValues (catalog : Catalog) (field : String) : List Value → Lowering (List Nat)
  | [] => return []
  | value :: values => do
      let slot ← Lowering.bind (← catalog.operand field value)
      return slot :: (← lowerValues catalog field values)

mutual

def lower (catalog : Catalog) : Condition → Lowering Sql.Predicate
  | .eq field value => do
      let column ← Lowering.column catalog field
      let slot ← Lowering.bind (← catalog.operand field value)
      return .compare column.name .equal slot
  | .oneOf field values => do
      let column ← Lowering.column catalog field
      if values.isEmpty then return .constant false
      return .member column.name (← lowerValues catalog field values)
  | .like field pattern => do
      let column ← Lowering.column catalog field
      return .compare column.name .like (← Lowering.bind (.text pattern))
  | .between field low high => do
      let column ← Lowering.column catalog field
      let low ← catalog.operand field low
      let high ← catalog.operand field high
      let lowSlot ← Lowering.bind low
      let highSlot ← Lowering.bind high
      return .conjunction
        [.compare column.name .atLeast lowSlot, .compare column.name .atMost highSlot]
  | .fullText field query => do
      let column ← Lowering.column catalog field
      return .search column.name (← Lowering.bind (.text query))
  | .all parts => return .conjunction (← lowerAll catalog parts)
  | .any parts => return .disjunction (← lowerAll catalog parts)
  | .not part => return .negation (← lower catalog part)

def lowerAll (catalog : Catalog) : List Condition → Lowering (List Sql.Predicate)
  | [] => return []
  | part :: parts => do
      let predicate ← lower catalog part
      return predicate :: (← lowerAll catalog parts)

end

end Condition

end Stockroom
