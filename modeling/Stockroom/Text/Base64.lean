/-!
# URL-safe base64

Bytes as texts over letters, digits, `-` and `_`: three bytes in four
characters, without padding.  A text is read only in its canonical form: no
character outside the alphabet, no lone character at the end, and the bits that
a short last group leaves over are zero.
-/

namespace Stockroom.Text.Base64

/-! ## The alphabet -/

def sextetChar (value : Nat) : Char :=
  if value < 26 then Char.ofNat ('A'.toNat + value)
  else if value < 52 then Char.ofNat ('a'.toNat + (value - 26))
  else if value < 62 then Char.ofNat ('0'.toNat + (value - 52))
  else if value = 62 then '-'
  else '_'

def sextet? (c : Char) : Option Nat :=
  if c.isUpper then some (c.toNat - 'A'.toNat)
  else if c.isLower then some (c.toNat - 'a'.toNat + 26)
  else if c.isDigit then some (c.toNat - '0'.toNat + 52)
  else if c = '-' then some 62
  else if c = '_' then some 63
  else none

/-! ## Encoding -/

def encode : List UInt8 → List Char
  | [] => []
  | [a] => [sextetChar (a.toNat / 4), sextetChar (a.toNat % 4 * 16)]
  | [a, b] =>
      [sextetChar (a.toNat / 4), sextetChar (a.toNat % 4 * 16 + b.toNat / 16),
        sextetChar (b.toNat % 16 * 4)]
  | a :: b :: c :: rest =>
      sextetChar (a.toNat / 4) ::
        sextetChar (a.toNat % 4 * 16 + b.toNat / 16) ::
        sextetChar (b.toNat % 16 * 4 + c.toNat / 64) ::
        sextetChar (c.toNat % 64) :: encode rest

/-! ## Decoding -/

def decode? : List Char → Option (List UInt8)
  | [] => some []
  | [_] => none
  | [w, x] => do
      let w ← sextet? w
      let x ← sextet? x
      if x % 16 = 0 then some [UInt8.ofNat (w * 4 + x / 16)] else none
  | [w, x, y] => do
      let w ← sextet? w
      let x ← sextet? x
      let y ← sextet? y
      if y % 4 = 0 then
        some [UInt8.ofNat (w * 4 + x / 16), UInt8.ofNat (x % 16 * 16 + y / 4)]
      else none
  | w :: x :: y :: z :: rest => do
      let w ← sextet? w
      let x ← sextet? x
      let y ← sextet? y
      let z ← sextet? z
      let bytes ← decode? rest
      some (UInt8.ofNat (w * 4 + x / 16) :: UInt8.ofNat (x % 16 * 16 + y / 4) ::
        UInt8.ofNat (y % 4 * 64 + z) :: bytes)

end Stockroom.Text.Base64
