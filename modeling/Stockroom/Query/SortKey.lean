import Stockroom.Text.Blank

/-!
# Sort keys

A sort key is written as a field name with an optional sign: a minus sorts in
descending order, a plus or no sign in ascending order.
-/

namespace Stockroom

inductive Order where
  | ascending
  | descending
  deriving DecidableEq, Repr

namespace Order

def word : Order → String
  | .ascending => "ASC"
  | .descending => "DESC"

def reverse : Order → Order
  | .ascending => .descending
  | .descending => .ascending

@[simp] theorem reverse_reverse (order : Order) : order.reverse.reverse = order := by
  cases order <;> rfl

end Order

structure SortKey where
  field : String
  order : Order
  deriving DecidableEq, Repr

namespace SortKey

def ofChars : List Char → SortKey
  | '-' :: field => ⟨String.ofList field, .descending⟩
  | '+' :: field => ⟨String.ofList field, .ascending⟩
  | field => ⟨String.ofList field, .ascending⟩

/-- Reads a sort key; blanks around it are dropped, blanks behind its sign are not. -/
def parse (text : String) : SortKey := ofChars (Text.trimChars text.toList)

/-- The field behind a minus if the order is descending. -/
def signed (key : SortKey) : String :=
  match key.order with
  | .ascending => key.field
  | .descending => "-" ++ key.field

end SortKey

end Stockroom
