import Stockroom.Number.Layout

/-!
# JSON values and their compact text

Whole numbers and doubles are kept apart, as their texts are.  An object is
written with its members in the order they have; `insertMember` keeps members in
ascending order of their keys, one value to a key.
-/

namespace Stockroom

inductive Json where
  | null
  | bool (value : Bool)
  | int (value : Int)
  | float (value : Double)
  | text (value : String)
  | array (items : List Json)
  | object (members : List (String × Json))
  deriving Repr

namespace Json

/-! ## Building -/

/-- A value that may be absent; its absence is a null. -/
def orNull {α : Type} (json : α → Json) : Option α → Json
  | none => .null
  | some value => json value

/-- Puts a member in its place among sorted members; an earlier value of the key is replaced. -/
def insertMember (key : String) (value : Json) :
    List (String × Json) → List (String × Json)
  | [] => [(key, value)]
  | (otherKey, otherValue) :: rest =>
      if key < otherKey then (key, value) :: (otherKey, otherValue) :: rest
      else if key = otherKey then (key, value) :: rest
      else (otherKey, otherValue) :: insertMember key value rest

/-! ## Equality of values, with doubles compared as numbers -/

mutual

def sameValue : Json → Json → Bool
  | .null, .null => true
  | .bool a, .bool b => a == b
  | .int a, .int b => a == b
  | .float a, .float b => a.numEq b
  | .text a, .text b => a == b
  | .array as, .array bs => sameItems as bs
  | .object as, .object bs => sameMembers as bs
  | _, _ => false

def sameItems : List Json → List Json → Bool
  | [], [] => true
  | a :: as, b :: bs => sameValue a b && sameItems as bs
  | _, _ => false

def sameMembers : List (String × Json) → List (String × Json) → Bool
  | [], [] => true
  | (key, a) :: as, (otherKey, b) :: bs =>
      key == otherKey && sameValue a b && sameMembers as bs
  | _, _ => false

end

/-! ## Writing -/

/-- A control character behind a backslash: by its letter if it has one, else by its code. -/
def escapeControl (c : Char) : List Char :=
  if c = '\x08' then ['\\', 'b']
  else if c = '\t' then ['\\', 't']
  else if c = '\n' then ['\\', 'n']
  else if c = '\x0c' then ['\\', 'f']
  else if c = '\r' then ['\\', 'r']
  else ['\\', 'u', '0', '0', Nat.digitChar (c.toNat / 16), Nat.digitChar (c.toNat % 16)]

def writeChar (c : Char) : List Char :=
  if c = '"' then ['\\', '"']
  else if c = '\\' then ['\\', '\\']
  else if c.toNat < 0x20 then escapeControl c
  else [c]

def writeText (s : String) : List Char :=
  '"' :: s.toList.flatMap writeChar ++ ['"']

def writeInt (n : Int) : List Char :=
  if n < 0 then '-' :: Nat.toDigits 10 n.natAbs else Nat.toDigits 10 n.natAbs

/-- A double as a number; JSON has none for the values that are not finite. -/
def writeDouble (x : Double) : List Char :=
  if x.isFinite then (Double.jsonLayout.finite x).toList else "null".toList

mutual

def write : Json → List Char
  | .null => "null".toList
  | .bool true => "true".toList
  | .bool false => "false".toList
  | .int n => writeInt n
  | .float x => writeDouble x
  | .text s => writeText s
  | .array [] => ['[', ']']
  | .array (item :: items) => '[' :: (write item ++ writeItems items) ++ [']']
  | .object [] => ['{', '}']
  | .object ((key, value) :: members) =>
      '{' :: (writeText key ++ ':' :: (write value ++ writeMembers members)) ++ ['}']

/-- The items behind the first one, each behind a comma. -/
def writeItems : List Json → List Char
  | [] => []
  | item :: items => ',' :: (write item ++ writeItems items)

def writeMembers : List (String × Json) → List Char
  | [] => []
  | (key, value) :: members =>
      ',' :: (writeText key ++ ':' :: (write value ++ writeMembers members))

end

/-- The compact text: no blanks, and only what must be escaped is escaped. -/
def render (value : Json) : String := String.ofList value.write

end Json

end Stockroom
