import Stockroom.Text.Quoted

/-!
# Complaints about fields

What is wrong with the fields of a record: for each field its messages, in the
order in which they were raised.
-/

namespace Stockroom

structure Complaints where
  entries : List (String × List String)
  deriving DecidableEq, Repr

namespace Complaints

def empty : Complaints := ⟨[]⟩

def isEmpty (complaints : Complaints) : Bool := complaints.entries.isEmpty

/-- Puts a message behind those of its field. -/
def insert (field message : String) :
    List (String × List String) → List (String × List String)
  | [] => [(field, [message])]
  | (other, messages) :: rest =>
      if other = field then (other, messages ++ [message]) :: rest
      else (other, messages) :: insert field message rest

def add (complaints : Complaints) (field message : String) : Complaints :=
  ⟨insert field message complaints.entries⟩

/-! ## Wording -/

def entryText (entry : String × List String) : String :=
  Text.quoted entry.1 ++ ": [" ++ ", ".intercalate (entry.2.map Text.quoted) ++ "]"

def message (complaints : Complaints) : String :=
  "Validation errors: \x7b" ++ ", ".intercalate (complaints.entries.map entryText) ++ "\x7d"

end Complaints

end Stockroom
