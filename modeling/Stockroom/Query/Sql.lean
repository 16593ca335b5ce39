import Stockroom.Query.SortKey

/-!
# SQL text

The parts of a statement that depend on a query, and their texts.  Columns stand
under their own names, and values only as numbered slots.  A chain of two or
more parts is written in parentheses, a chain of one part is that part, and an
empty chain is its neutral constant, so every text can stand inside a larger
one.
-/

namespace Stockroom.Sql

/-- The placeholder of the parameter with the given number. -/
def slotText (slot : Nat) : String := "$" ++ toString slot

/-! ## Predicates -/

inductive Comparison where
  | equal
  | atLeast
  | atMost
  | like
  deriving DecidableEq, Repr

def Comparison.symbol : Comparison → String
  | .equal => "="
  | .atLeast => ">="
  | .atMost => "<="
  | .like => "LIKE"

inductive Predicate where
  | constant (value : Bool)
  | compare (column : String) (comparison : Comparison) (slot : Nat)
  | member (column : String) (slots : List Nat)
  | search (column : String) (slot : Nat)
  | conjunction (parts : List Predicate)
  | disjunction (parts : List Predicate)
  | negation (part : Predicate)
  deriving Repr

namespace Predicate

def constantText (value : Bool) : String := if value then "TRUE" else "FALSE"

mutual

def text : Predicate → String
  | .constant value => constantText value
  | .compare column comparison slot =>
      column ++ " " ++ comparison.symbol ++ " " ++ slotText slot
  | .member column slots =>
      column ++ " IN (" ++ ",".intercalate (slots.map slotText) ++ ")"
  | .search column slot =>
      "to_tsvector('simple', " ++ column ++ ") @@ plainto_tsquery('simple', " ++
        slotText slot ++ ")"
  | .conjunction [] => constantText true
  | .conjunction [part] => part.text
  | .conjunction (part :: parts) => "(" ++ part.text ++ chainText " AND " parts ++ ")"
  | .disjunction [] => constantText false
  | .disjunction [part] => part.text
  | .disjunction (part :: parts) => "(" ++ part.text ++ chainText " OR " parts ++ ")"
  | .negation part => "NOT (" ++ part.text ++ ")"

/-- The parts behind the first one, each behind the connective. -/
def chainText (connective : String) : List Predicate → String
  | [] => ""
  | part :: parts => connective ++ part.text ++ chainText connective parts

end

end Predicate

/-! ## Order and row windows -/

structure OrderTerm where
  column : String
  order : Order
  deriving DecidableEq, Repr

def OrderTerm.text (term : OrderTerm) : String := term.column ++ " " ++ term.order.word

def orderText (terms : List OrderTerm) : String :=
  "ORDER BY " ++ ", ".intercalate (terms.map OrderTerm.text)

/-- The rows on one side of a boundary row, in the order of a column and the identifier. -/
structure Boundary where
  column : String
  id : String
  /-- The side with the greater rows. -/
  above : Bool
  valueSlot : Nat
  idSlot : Nat
  deriving DecidableEq, Repr

def Boundary.text (boundary : Boundary) : String :=
  "(" ++ boundary.column ++ ", " ++ boundary.id ++ ") " ++
    (if boundary.above then ">" else "<") ++
    " (" ++ slotText boundary.valueSlot ++ ", " ++ slotText boundary.idSlot ++ ")"

def windowText (limit : UInt32) (offset : Option UInt64) : String :=
  match offset with
  | none => "LIMIT " ++ toString limit.toNat
  | some offset => "LIMIT " ++ toString limit.toNat ++ " OFFSET " ++ toString offset.toNat

end Stockroom.Sql
