import Stockroom.Query.Lowering

/-!
# Statements

A selection becomes one statement: a predicate over the filter parameters, an
order, and a window of rows.  With a cursor the window is a boundary row instead
of an offset, and the order is the one that finds the rows next to the boundary
first.
-/

namespace Stockroom

/-- The side of a boundary row that a page takes, and the order in which it is taken. -/
structure Keyset where
  boundary : Sql.Boundary
  terms : List Sql.OrderTerm
  /-- The rows come in the reverse of the order in which they are shown. -/
  reversed : Bool
  deriving DecidableEq, Repr

structure Window where
  limit : UInt32
  /-- The rows to skip; a keyset skips none. -/
  offset : Option UInt64
  keyset : Option Keyset
  deriving DecidableEq, Repr

structure Statement where
  predicate : Option Sql.Predicate
  /-- How many of the parameters the predicate uses; they come first. -/
  filterCount : Nat
  params : List Value
  terms : List Sql.OrderTerm
  window : Window
  /-- The columns asked for; none stands for all of them. -/
  projection : List String
  fallbacks : List Fallback
  deriving Repr

namespace Catalog

/-! ## Order -/

def lowerTerms (catalog : Catalog) : List SortKey → Lowering (List Sql.OrderTerm)
  | [] => return []
  | key :: keys => do
      let column ← Lowering.column catalog key.field
      return ⟨column.name, key.order⟩ :: (← lowerTerms catalog keys)

/-- The order of the sort keys; without any, the latest rows of the fallback column come first. -/
def lowerSorting (catalog : Catalog) (keys : List SortKey) : Lowering (List Sql.OrderTerm) :=
  if keys.isEmpty then return [⟨catalog.fallback.name, .descending⟩]
  else catalog.lowerTerms keys

/-! ## Keysets -/

/-- The order by a column and then by the identifier, each column named once. -/
def keysetTerms (column id : String) (order : Order) : List Sql.OrderTerm :=
  if column = id then [⟨id, order⟩] else [⟨column, order⟩, ⟨id, order⟩]

/-- Both values of the cursor are read before either is bound. -/
def lowerCursor (catalog : Catalog) (cursor : Cursor) : Lowering Keyset := do
  let key := cursor.sortKey
  let column ← Lowering.column catalog key.field
  let value ← (cursor.readValue column.kind).mapError QueryFault.invalidCursor
  let id ← (cursor.readId catalog.id.kind).mapError QueryFault.invalidCursor
  let order := if cursor.travel = .next then key.order else key.order.reverse
  let valueSlot ← Lowering.bind value
  let idSlot ← Lowering.bind id
  return {
    boundary := ⟨column.name, catalog.id.name, order = .ascending, valueSlot, idSlot⟩
    terms := keysetTerms column.name catalog.id.name order
    reversed := cursor.travel = .prev }

def lowerWindow (catalog : Catalog) (selection : Selection) : Lowering Window :=
  match selection.cursor with
  | some cursor => do return ⟨selection.size, none, some (← catalog.lowerCursor cursor)⟩
  | none => return ⟨selection.size, some selection.offset, none⟩

/-! ## Projection -/

/-- The columns of the fields, each at its first occurrence. -/
def lowerFields (catalog : Catalog) (chosen : List String) :
    List String → Lowering (List String)
  | [] => return chosen
  | field :: fields => do
      let column ← Lowering.column catalog field
      catalog.lowerFields
        (if chosen.contains column.name then chosen else chosen ++ [column.name]) fields

/-! ## The whole statement -/

def lowerCondition (catalog : Catalog) : Option Condition → Lowering (Option Sql.Predicate)
  | none => return none
  | some condition => return some (← condition.lower catalog)

def lowerSelection (catalog : Catalog) (selection : Selection) : Lowering Statement := do
  let predicate ← catalog.lowerCondition selection.condition
  let filterCount := (← get).params.length
  let projection ← catalog.lowerFields [] selection.fields
  let window ← catalog.lowerWindow selection
  let terms ← match window.keyset with
    | some keyset => pure keyset.terms
    | none => catalog.lowerSorting selection.sorting
  let bindings ← get
  return {
    predicate, filterCount, terms, window, projection
    params := bindings.params
    fallbacks := bindings.fallbacks }

/-- The statement of a selection, or the first fault in it. -/
def statement (catalog : Catalog) (selection : Selection) : Except QueryFault Statement :=
  (catalog.lowerSelection selection |>.run |>.run .empty).1

end Catalog

namespace Statement

/-- The parameters of the predicate. -/
def filterParams (statement : Statement) : List Value :=
  statement.params.take statement.filterCount

def isKeyset (statement : Statement) : Bool := statement.window.keyset.isSome

def reversed (statement : Statement) : Bool :=
  statement.window.keyset.any Keyset.reversed

/-! ## Texts -/

def predicateText (statement : Statement) : Option String :=
  statement.predicate.map Sql.Predicate.text

def keysetText (statement : Statement) : Option String :=
  statement.window.keyset.map fun keyset => keyset.boundary.text

def orderText (statement : Statement) : String := Sql.orderText statement.terms

/-- The window with room for further rows, as far as the limit can grow. -/
def windowText (statement : Statement) (extra : UInt32) : String :=
  let limit := statement.window.limit.toNat + extra.toNat
  Sql.windowText (UInt32.ofNat (min limit (UInt32.size - 1))) statement.window.offset

/-- The condition of the rows: the predicate and the keyset together. -/
def whereText (statement : Statement) : Option String :=
  match statement.predicateText, statement.keysetText with
  | some predicate, some keyset => some (predicate ++ " AND " ++ keyset)
  | some predicate, none => some predicate
  | none, keyset => keyset

def rowsText (statement : Statement) (table columns : String) (extra : UInt32) : String :=
  let condition :=
    match statement.whereText with
    | some condition => " WHERE " ++ condition
    | none => ""
  "SELECT " ++ columns ++ " FROM " ++ table ++ condition ++ " " ++ statement.orderText ++
    " " ++ statement.windowText extra

def countText (statement : Statement) (table : String) : String :=
  let condition :=
    match statement.predicateText with
    | some predicate => " WHERE " ++ predicate
    | none => ""
  "SELECT COUNT(*) FROM " ++ table ++ condition

end Statement

end Stockroom
