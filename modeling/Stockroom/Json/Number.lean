import Stockroom.Json.Basic
import Stockroom.Text.Numeral

/-!
# Numbers in JSON texts

A number without fraction and exponent that fits 64 bits stays whole.  Every
other number becomes a double: its digits are taken into a 64-bit significand
as long as they fit, and the double is the significand times or over a power of
ten, each rounded.  A value past the largest double is out of range.
-/

namespace Stockroom.Json

/-! ## The parts of a number -/

structure NumberParts where
  negative : Bool
  whole : List Char
  /-- The digits behind the point, if there is one. -/
  fraction : Option (List Char)
  /-- The sign and the digits behind the exponent mark, if there is one. -/
  exponent : Option (Bool × List Char)
  deriving DecidableEq, Repr

namespace NumberParts

/-- A single zero, or digits that do not start with one. -/
def wholeOk : List Char → Bool
  | [] => false
  | ['0'] => true
  | c :: rest => c.isDigit && c != '0' && rest.all Char.isDigit

def digitsOk (digits : List Char) : Bool :=
  !digits.isEmpty && digits.all Char.isDigit

/-- Splits at the first character that satisfies the test, which belongs to neither part. -/
def splitAt? (test : Char → Bool) (text : List Char) : List Char × Option (List Char) :=
  match text.dropWhile (!test ·) with
  | [] => (text, none)
  | _ :: rest => (text.takeWhile (!test ·), some rest)

def signed : List Char → Bool × List Char
  | '-' :: digits => (true, digits)
  | '+' :: digits => (false, digits)
  | digits => (false, digits)

def ofChars? (text : List Char) : Option NumberParts :=
  let (negative, unsigned) :=
    match text with
    | '-' :: rest => (true, rest)
    | _ => (false, text)
  let (mantissa, exponent) := splitAt? (fun c => c == 'e' || c == 'E') unsigned
  let (whole, fraction) := splitAt? (· == '.') mantissa
  let parts : NumberParts := ⟨negative, whole, fraction, exponent.map signed⟩
  if wholeOk parts.whole && parts.fraction.all digitsOk &&
      parts.exponent.all (fun e => digitsOk e.2) then
    some parts
  else none

end NumberParts

/-! ## The value of a number -/

/-- Digits taken into the significand while it fits 64 bits, with how many were taken. -/
def takeSignificand (significand taken : Nat) : List Char → Nat × Nat
  | [] => (significand, taken)
  | c :: rest =>
      let next := 10 * significand + (c.toNat - '0'.toNat)
      if next < UInt64.size then takeSignificand next (taken + 1) rest
      else (significand, taken)

/-- The significand times `10 ^ exponent`, rounded; nothing if it exceeds every double. -/
def scaleDouble? (significand : Nat) (exponent : Int) : Option Float :=
  let start := Float.ofNat significand
  let power := fun (k : Int) => Float.ofScientific 1 false k.natAbs
  if significand = 0 then some start
  else if exponent > 308 then none
  else if 0 ≤ exponent then
    let product := start * power exponent
    if product.isInf then none else some product
  else if -308 ≤ exponent then some (start / power exponent)
  else if -616 ≤ exponent then some (start / power 308 / power (exponent + 308))
  else some 0

def NumberParts.double? (parts : NumberParts) : Option Double :=
  let (whole, taken) := takeSignificand 0 0 parts.whole
  let (significand, behind) := takeSignificand whole 0 (parts.fraction.getD [])
  let shift : Int := (parts.whole.length - taken : Nat) - (behind : Int)
  let exponent : Int :=
    match parts.exponent with
    | none => 0
    | some (true, digits) => -(Text.digitsValue digits : Int)
    | some (false, digits) => Text.digitsValue digits
  (scaleDouble? significand (shift + exponent)).map fun x =>
    Double.ofFloat (if parts.negative then -x else x)

/-- The value, or nothing if it is out of range. -/
def NumberParts.value? (parts : NumberParts) : Option Json :=
  let magnitude := Text.digitsValue parts.whole
  if parts.fraction.isNone && parts.exponent.isNone then
    if parts.negative then
      if 0 < magnitude ∧ magnitude ≤ Nat.pow 2 63 then some (.int (-(magnitude : Int)))
      else parts.double?.map .float
    else if magnitude < UInt64.size then some (.int magnitude)
    else parts.double?.map .float
  else parts.double?.map .float

end Stockroom.Json
