/-!
# Numerals

Digits of natural numbers in base ten and sixteen, and the reading of whole
numbers with a limit.  A numeral is refused at its first offending character,
and the cause says whether that character is no digit or takes the value past
the limit.
-/

namespace Stockroom.Text

/-! ## Digits -/

def decimalDigit? (c : Char) : Option Nat :=
  if c.isDigit then some (c.toNat - '0'.toNat) else none

/-- The value of a hexadecimal digit of either case. -/
def hexDigit? (c : Char) : Option Nat :=
  if c.isDigit then some (c.toNat - '0'.toNat)
  else if 'a' ≤ c ∧ c ≤ 'f' then some (c.toNat - 'a'.toNat + 10)
  else if 'A' ≤ c ∧ c ≤ 'F' then some (c.toNat - 'A'.toNat + 10)
  else none

/-- Exactly `width` digits of `n`, most significant first. -/
def paddedDigits (base : Nat) : (width : Nat) → (n : Nat) → List Char
  | 0, _ => []
  | width + 1, n => paddedDigits base width (n / base) ++ [Nat.digitChar (n % base)]

@[simp] theorem length_paddedDigits (base width n : Nat) :
    (paddedDigits base width n).length = width := by
  induction width generalizing n with
  | zero => rfl
  | succ width ih => simp [paddedDigits, ih]

/-- The decimal digits of `n`, padded with zeros to at least `width`. -/
def atLeastDigits (width n : Nat) : List Char :=
  let digits := Nat.toDigits 10 n
  List.replicate (width - digits.length) '0' ++ digits

/-- Digits read onto `value` in the given base; every character must be one. -/
def readHex (value : Nat) : List Char → Option Nat
  | [] => some value
  | c :: rest =>
      match hexDigit? c with
      | none => none
      | some digit => readHex (16 * value + digit) rest

/-! ## Whole numbers with a limit -/

inductive NumeralFault where
  | empty
  | invalidDigit
  | tooLarge
  deriving DecidableEq, Repr

def NumeralFault.message : NumeralFault → String
  | .empty => "cannot parse integer from empty string"
  | .invalidDigit => "invalid digit found in string"
  | .tooLarge => "number too large to fit in target type"

/-- Decimal digits read onto `value`, as long as the value stays within `limit`. -/
def readDigits (limit : Nat) (value : Nat) : List Char → Except NumeralFault Nat
  | [] => .ok value
  | c :: rest =>
      match decimalDigit? c with
      | none => .error .invalidDigit
      | some digit =>
          if 10 * value + digit ≤ limit then
            readDigits limit (10 * value + digit) rest
          else .error .tooLarge

/-- A natural number up to `limit`: digits behind an optional plus sign. -/
def readNatural (limit : Nat) : List Char → Except NumeralFault Nat
  | [] => .error .empty
  | ['+'] => .error .invalidDigit
  | '+' :: digits => readDigits limit 0 digits
  | digits => readDigits limit 0 digits

def readUInt32 (text : List Char) : Except NumeralFault UInt32 :=
  (readNatural (UInt32.size - 1) text).map UInt32.ofNat

def readUInt64 (text : List Char) : Except NumeralFault UInt64 :=
  (readNatural (UInt64.size - 1) text).map UInt64.ofNat

/-- A signed 64-bit number; the negative side reaches one further than the positive. -/
def readInt64 : List Char → Except NumeralFault Int64
  | '-' :: digit :: digits =>
      (readDigits (Nat.pow 2 63) 0 (digit :: digits)).map fun n => Int64.ofInt (-(n : Int))
  | text => (readNatural (Nat.pow 2 63 - 1) text).map fun n => Int64.ofInt n

/-! ## Fixed counts of digits -/

/-- Reads exactly `count` decimal digits onto `value` and gives the rest. -/
def takeDigits? (value : Nat) : (count : Nat) → List Char → Option (Nat × List Char)
  | 0, text => some (value, text)
  | _ + 1, [] => none
  | count + 1, c :: rest =>
      match decimalDigit? c with
      | none => none
      | some digit => takeDigits? (10 * value + digit) count rest

/-- The value of a run of decimal digits, most significant first. -/
def digitsValue (digits : List Char) : Nat :=
  Nat.ofDigitChars 10 digits 0

end Stockroom.Text
