/-!
# UTF-8

Bytes are read as glyphs: a character where a shortest, valid sequence stands,
and a stray byte where none does.  After a stray byte reading resumes at the
next byte, so an ASCII character is never swallowed by a broken sequence in
front of it.
-/

namespace Stockroom.Text

inductive Glyph where
  | char (c : Char)
  | stray (byte : UInt8)
  deriving DecidableEq, Repr

namespace Utf8

/-! ## Writing -/

def encode (text : List Char) : List UInt8 :=
  text.flatMap String.utf8EncodeChar

/-! ## Reading -/

/-- The six bits of a continuation byte. -/
def tail? (byte : UInt8) : Option Nat :=
  if 0x80 ≤ byte ∧ byte ≤ 0xBF then some (byte.toNat - 0x80) else none

/-- A code point that is no surrogate and needs the sequence length it came in. -/
def scalar? (least value : Nat) : Option Char :=
  if least ≤ value ∧ value.isValidChar then some (Char.ofNat value) else none

def two? (a b : UInt8) : Option Char := do
  if 0xC0 ≤ a ∧ a ≤ 0xDF then
    scalar? 0x80 ((a.toNat - 0xC0) * 0x40 + (← tail? b))
  else none

def three? (a b c : UInt8) : Option Char := do
  if 0xE0 ≤ a ∧ a ≤ 0xEF then
    scalar? 0x800 ((a.toNat - 0xE0) * 0x1000 + (← tail? b) * 0x40 + (← tail? c))
  else none

def four? (a b c d : UInt8) : Option Char := do
  if 0xF0 ≤ a ∧ a ≤ 0xF7 then
    scalar? 0x10000 ((a.toNat - 0xF0) * 0x40000 + (← tail? b) * 0x1000 +
      (← tail? c) * 0x40 + (← tail? d))
  else none

def decode : List UInt8 → List Glyph
  | [] => []
  | a :: rest =>
      if a < 0x80 then .char (Char.ofNat a.toNat) :: decode rest
      else
        match rest with
        | [] => [.stray a]
        | b :: afterTwo =>
            match two? a b with
            | some c => .char c :: decode afterTwo
            | none =>
                match afterTwo with
                | [] => .stray a :: decode [b]
                | c :: afterThree =>
                    match three? a b c with
                    | some ch => .char ch :: decode afterThree
                    | none =>
                        match afterThree with
                        | [] => .stray a :: decode [b, c]
                        | d :: afterFour =>
                            match four? a b c d with
                            | some ch => .char ch :: decode afterFour
                            | none => .stray a :: decode (b :: c :: d :: afterFour)

end Utf8

end Stockroom.Text
