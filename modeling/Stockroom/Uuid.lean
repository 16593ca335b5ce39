import Stockroom.Text.Numeral

/-!
# Universally unique identifiers

An identifier is a number of 128 bits.  It is written as 32 lower-case
hexadecimal digits in five hyphenated groups, and read in that form, without
hyphens, in braces or behind `urn:uuid:`, with letters of either case.
-/

namespace Stockroom

structure Uuid where
  value : Nat
  value_lt : value < Nat.pow 2 128 := by decide
  deriving DecidableEq, Repr

namespace Uuid

def nil : Uuid := ⟨0, by decide⟩

/-! ## Writing -/

/-- Cuts 32 digits into the five groups. -/
def hyphenate (digits : List Char) : List Char :=
  digits.take 8 ++ '-' :: (digits.drop 8).take 4 ++ '-' :: (digits.drop 12).take 4 ++
    '-' :: (digits.drop 16).take 4 ++ '-' :: digits.drop 20

def render (id : Uuid) : String :=
  String.ofList (hyphenate (Text.paddedDigits 16 32 id.value))

/-! ## Reading -/

def ofDigits? (digits : List Char) : Option Uuid := do
  let value ← Text.readHex 0 digits
  if h : value < Nat.pow 2 128 then some ⟨value, h⟩ else none

/-- The digits of the five groups, if the hyphens stand between them. -/
def unhyphenate? (text : List Char) : Option (List Char) :=
  let digits := text.take 8 ++ (text.drop 9).take 4 ++ (text.drop 14).take 4 ++
    (text.drop 19).take 4 ++ text.drop 24
  if text.length = 36 ∧ hyphenate digits = text then some digits else none

def ofGroups? (text : List Char) : Option Uuid := do
  ofDigits? (← unhyphenate? text)

/-- The start of an identifier that is written as a resource name. -/
def urnHead : List Char := ['u', 'r', 'n', ':', 'u', 'u', 'i', 'd', ':']

/-- The text behind the head of a resource name, or the whole text if it is none. -/
def withoutUrnHead (text : List Char) : List Char :=
  if (text.take urnHead.length).map Char.toLower = urnHead then text.drop urnHead.length
  else text

def parseChars? (text : List Char) : Option Uuid :=
  if text.length = 32 then ofDigits? text
  else
    match text with
    | '{' :: rest =>
        if rest.getLast? = some '}' then ofGroups? rest.dropLast else none
    | _ => ofGroups? (withoutUrnHead text)

def parse? (text : String) : Option Uuid := parseChars? text.toList

end Uuid

end Stockroom
