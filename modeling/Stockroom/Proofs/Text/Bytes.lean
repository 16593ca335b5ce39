import Mathlib.Data.List.TakeWhile
import Stockroom.Text.Base64
import Stockroom.Text.Blank
import Stockroom.Text.Utf8

/-!
# Bytes and their texts

Both layers between a JSON text and a token read back what they write: UTF-8
takes characters to bytes, base64 takes bytes to the characters of a token.  The
characters of a token are never blank, so trimming leaves a token alone.
-/

namespace Stockroom.Text

/-! ## Base64 -/

namespace Base64

theorem sextet?_sextetChar {value : Nat} (h : value < 64) :
    sextet? (sextetChar value) = some value := by
  have all : ∀ value < 64, sextet? (sextetChar value) = some value := by decide
  exact all value h

theorem isBlank_sextetChar {value : Nat} (h : value < 64) :
    isBlank (sextetChar value) = false := by
  have all : ∀ value < 64, isBlank (sextetChar value) = false := by decide
  exact all value h

@[simp] theorem decode?_encode : ∀ bytes : List UInt8, decode? (encode bytes) = some bytes
  | [] => rfl
  | [a] => by
      have ha := a.toNat_lt
      have first : a.toNat / 4 < 64 := by omega
      have second : a.toNat % 4 * 16 < 64 := by omega
      have spare : a.toNat % 4 * 16 % 16 = 0 := by omega
      have wholeA : a.toNat / 4 * 4 + a.toNat % 4 * 16 / 16 = a.toNat := by omega
      simp only [encode, decode?, sextet?_sextetChar first, sextet?_sextetChar second,
        Option.bind_eq_bind, Option.bind_some, spare, wholeA, if_true, UInt8.ofNat_toNat]
  | [a, b] => by
      have ha := a.toNat_lt
      have hb := b.toNat_lt
      have first : a.toNat / 4 < 64 := by omega
      have second : a.toNat % 4 * 16 + b.toNat / 16 < 64 := by omega
      have third : b.toNat % 16 * 4 < 64 := by omega
      have spare : b.toNat % 16 * 4 % 4 = 0 := by omega
      have wholeA : a.toNat / 4 * 4 + (a.toNat % 4 * 16 + b.toNat / 16) / 16 = a.toNat := by
        omega
      have wholeB : (a.toNat % 4 * 16 + b.toNat / 16) % 16 * 16 + b.toNat % 16 * 4 / 4 =
          b.toNat := by omega
      simp only [encode, decode?, sextet?_sextetChar first, sextet?_sextetChar second,
        sextet?_sextetChar third, Option.bind_eq_bind, Option.bind_some, spare, wholeA,
        wholeB, if_true, UInt8.ofNat_toNat]
  | a :: b :: c :: rest => by
      have further := decode?_encode rest
      have ha := a.toNat_lt
      have hb := b.toNat_lt
      have hc := c.toNat_lt
      have first : a.toNat / 4 < 64 := by omega
      have second : a.toNat % 4 * 16 + b.toNat / 16 < 64 := by omega
      have third : b.toNat % 16 * 4 + c.toNat / 64 < 64 := by omega
      have fourth : c.toNat % 64 < 64 := by omega
      have wholeA : a.toNat / 4 * 4 + (a.toNat % 4 * 16 + b.toNat / 16) / 16 = a.toNat := by
        omega
      have wholeB : (a.toNat % 4 * 16 + b.toNat / 16) % 16 * 16 +
          (b.toNat % 16 * 4 + c.toNat / 64) / 4 = b.toNat := by omega
      have wholeC : (b.toNat % 16 * 4 + c.toNat / 64) % 4 * 64 + c.toNat % 64 = c.toNat := by
        omega
      simp only [encode, decode?, sextet?_sextetChar first, sextet?_sextetChar second,
        sextet?_sextetChar third, sextet?_sextetChar fourth, further, Option.bind_eq_bind,
        Option.bind_some, wholeA, wholeB, wholeC, UInt8.ofNat_toNat]

theorem isBlank_of_mem_encode {c : Char} :
    ∀ {bytes : List UInt8}, c ∈ encode bytes → isBlank c = false
  | [], h => absurd h List.not_mem_nil
  | [a], h => by
      have ha := a.toNat_lt
      simp only [encode, List.mem_cons, List.not_mem_nil, or_false] at h
      rcases h with rfl | rfl <;> exact isBlank_sextetChar (by omega)
  | [a, b], h => by
      have ha := a.toNat_lt
      have hb := b.toNat_lt
      simp only [encode, List.mem_cons, List.not_mem_nil, or_false] at h
      rcases h with rfl | rfl | rfl <;> exact isBlank_sextetChar (by omega)
  | a :: b :: d :: rest, h => by
      have ha := a.toNat_lt
      have hb := b.toNat_lt
      have hd := d.toNat_lt
      simp only [encode, List.mem_cons] at h
      rcases h with rfl | rfl | rfl | rfl | h
      · exact isBlank_sextetChar (by omega)
      · exact isBlank_sextetChar (by omega)
      · exact isBlank_sextetChar (by omega)
      · exact isBlank_sextetChar (by omega)
      · exact isBlank_of_mem_encode h

theorem encode_ne_nil {bytes : List UInt8} (h : bytes ≠ []) : encode bytes ≠ [] := by
  fun_cases encode bytes <;> simp_all

end Base64

/-! ## UTF-8 -/

namespace Utf8

theorem decode_of_ascii {a : UInt8} (h : a.toNat < 0x80) (rest : List UInt8) :
    decode (a :: rest) = .char (Char.ofNat a.toNat) :: decode rest := by
  have small : a < 0x80 := UInt8.lt_iff_toNat_lt.mpr h
  rw [decode.eq_def]
  simp only [small, if_true]

theorem decode_of_two {a b : UInt8} {ch : Char} (h : 0x80 ≤ a.toNat)
    (hch : two? a b = some ch) (rest : List UInt8) :
    decode (a :: b :: rest) = .char ch :: decode rest := by
  have large : ¬ a < 0x80 := by simpa [UInt8.lt_iff_toNat_lt] using h
  rw [decode.eq_def]
  simp only [large, if_false, hch]

theorem decode_of_three {a b c : UInt8} {ch : Char} (h : 0x80 ≤ a.toNat)
    (htwo : two? a b = none) (hch : three? a b c = some ch) (rest : List UInt8) :
    decode (a :: b :: c :: rest) = .char ch :: decode rest := by
  have large : ¬ a < 0x80 := by simpa [UInt8.lt_iff_toNat_lt] using h
  rw [decode.eq_def]
  simp only [large, if_false, htwo, hch]

theorem decode_of_four {a b c d : UInt8} {ch : Char} (h : 0x80 ≤ a.toNat)
    (htwo : two? a b = none) (hthree : three? a b c = none)
    (hch : four? a b c d = some ch) (rest : List UInt8) :
    decode (a :: b :: c :: d :: rest) = .char ch :: decode rest := by
  have large : ¬ a < 0x80 := by simpa [UInt8.lt_iff_toNat_lt] using h
  rw [decode.eq_def]
  simp only [large, if_false, htwo, hthree, hch]

theorem tail?_of_toNat {b : UInt8} {n : Nat} (hb : b.toNat = n + 0x80) (h : n < 0x40) :
    tail? b = some n := by
  have range : 0x80 ≤ b ∧ b ≤ 0xBF := by
    simp only [UInt8.le_iff_toNat_le, UInt8.reduceToNat]
    omega
  rw [tail?, if_pos range, hb, Nat.add_sub_cancel]

theorem scalar?_toNat {least : Nat} {c : Char} (h : least ≤ c.toNat) :
    scalar? least c.toNat = some c := by
  have valid : c.toNat.isValidChar := c.valid
  rw [scalar?, if_pos ⟨h, valid⟩, Char.ofNat_toNat]

theorem two?_eq_none {a : UInt8} (h : 0xE0 ≤ a.toNat) (b : UInt8) : two? a b = none := by
  have large : ¬ (0xC0 ≤ a ∧ a ≤ 0xDF) := by
    simp only [UInt8.le_iff_toNat_le, UInt8.reduceToNat]
    omega
  rw [two?, if_neg large]

theorem three?_eq_none {a : UInt8} (h : 0xF0 ≤ a.toNat) (b c : UInt8) :
    three? a b c = none := by
  have large : ¬ (0xE0 ≤ a ∧ a ≤ 0xEF) := by
    simp only [UInt8.le_iff_toNat_le, UInt8.reduceToNat]
    omega
  rw [three?, if_neg large]

theorem two?_of_toNat {a b : UInt8} {c : Char} (ha : a.toNat = c.toNat / 0x40 + 0xC0)
    (hb : b.toNat = c.toNat % 0x40 + 0x80) (least : 0x80 ≤ c.toNat) (most : c.toNat < 0x800) :
    two? a b = some c := by
  have range : 0xC0 ≤ a ∧ a ≤ 0xDF := by
    simp only [UInt8.le_iff_toNat_le, UInt8.reduceToNat]
    omega
  have whole : (a.toNat - 0xC0) * 0x40 + c.toNat % 0x40 = c.toNat := by omega
  have low := tail?_of_toNat hb (by omega)
  rw [two?, if_pos range, low, Option.bind_eq_bind, Option.bind_some, whole,
    scalar?_toNat least]

theorem three?_of_toNat {a b d : UInt8} {c : Char} (ha : a.toNat = c.toNat / 0x1000 + 0xE0)
    (hb : b.toNat = c.toNat / 0x40 % 0x40 + 0x80) (hd : d.toNat = c.toNat % 0x40 + 0x80)
    (least : 0x800 ≤ c.toNat) (most : c.toNat < 0x10000) : three? a b d = some c := by
  have range : 0xE0 ≤ a ∧ a ≤ 0xEF := by
    simp only [UInt8.le_iff_toNat_le, UInt8.reduceToNat]
    omega
  have whole : (a.toNat - 0xE0) * 0x1000 + c.toNat / 0x40 % 0x40 * 0x40 + c.toNat % 0x40 =
      c.toNat := by omega
  have middle := tail?_of_toNat hb (by omega)
  have low := tail?_of_toNat hd (by omega)
  rw [three?, if_pos range, middle, low, Option.bind_eq_bind, Option.bind_some,
    Option.bind_some, whole, scalar?_toNat least]

theorem four?_of_toNat {a b d e : UInt8} {c : Char}
    (ha : a.toNat = c.toNat / 0x40000 + 0xF0) (hb : b.toNat = c.toNat / 0x1000 % 0x40 + 0x80)
    (hd : d.toNat = c.toNat / 0x40 % 0x40 + 0x80) (he : e.toNat = c.toNat % 0x40 + 0x80)
    (least : 0x10000 ≤ c.toNat) (most : c.toNat < 0x110000) : four? a b d e = some c := by
  have range : 0xF0 ≤ a ∧ a ≤ 0xF7 := by
    simp only [UInt8.le_iff_toNat_le, UInt8.reduceToNat]
    omega
  have whole : (a.toNat - 0xF0) * 0x40000 + c.toNat / 0x1000 % 0x40 * 0x1000 +
      c.toNat / 0x40 % 0x40 * 0x40 + c.toNat % 0x40 = c.toNat := by omega
  have upper := tail?_of_toNat hb (by omega)
  have middle := tail?_of_toNat hd (by omega)
  have low := tail?_of_toNat he (by omega)
  -- `simp` and `rfl` would make the kernel unfold the large factors in unary
  rw [four?, if_pos range, upper, middle, low, Option.bind_eq_bind, Option.bind_some,
    Option.bind_some, Option.bind_some, whole, scalar?_toNat least]

theorem decode_utf8EncodeChar (c : Char) (rest : List UInt8) :
    decode (String.utf8EncodeChar c ++ rest) = .char c :: decode rest := by
  have bound : c.toNat < 0x110000 := by
    have valid : c.toNat.isValidChar := c.valid
    simp only [Nat.isValidChar] at valid
    omega
  have byte {n : Nat} (h : n < 256) : (UInt8.ofNat n).toNat = n :=
    UInt8.toNat_ofNat_of_lt h
  dsimp only [String.utf8EncodeChar]
  rw [show c.val.toNat = c.toNat from rfl]
  -- One case for each length; the first byte of a sequence tells them apart.
  split
  next one =>
      have value := byte (n := c.toNat) (by omega)
      rw [List.cons_append, List.nil_append, decode_of_ascii (by omega), value,
        Char.ofNat_toNat]
  next one =>
  split
  next two =>
      have first := byte (n := c.toNat / 64 % 32 + 0xC0) (by omega)
      have second := byte (n := c.toNat % 64 + 0x80) (by omega)
      exact decode_of_two (by omega)
        (two?_of_toNat (by omega) second (by omega) (by omega)) rest
  next two =>
  split
  next three =>
      have first := byte (n := c.toNat / 4096 % 16 + 0xE0) (by omega)
      have second := byte (n := c.toNat / 64 % 64 + 0x80) (by omega)
      have third := byte (n := c.toNat % 64 + 0x80) (by omega)
      exact decode_of_three (by omega) (two?_eq_none (by omega) _)
        (three?_of_toNat (by omega) second third (by omega) (by omega)) rest
  next three =>
      have first := byte (n := c.toNat / 262144 % 8 + 0xF0) (by omega)
      have second := byte (n := c.toNat / 4096 % 64 + 0x80) (by omega)
      have third := byte (n := c.toNat / 64 % 64 + 0x80) (by omega)
      have fourth := byte (n := c.toNat % 64 + 0x80) (by omega)
      exact decode_of_four (by omega) (two?_eq_none (by omega) _)
        (three?_eq_none (by omega) _ _)
        (four?_of_toNat (by omega) second third fourth (by omega) (by omega)) rest

@[simp] theorem decode_encode (text : List Char) :
    decode (encode text) = text.map .char := by
  induction text with
  | nil => simp [encode, decode]
  | cons c text ih =>
      have tail : decode (text.flatMap String.utf8EncodeChar) = text.map .char := ih
      rw [encode, List.flatMap_cons, decode_utf8EncodeChar, tail, List.map_cons]

end Utf8

/-! ## Trimming -/

theorem dropWhile_isBlank_of_forall {text : List Char}
    (h : ∀ c ∈ text, isBlank c = false) : text.dropWhile isBlank = text := by
  cases text with
  | nil => rfl
  | cons c rest => simp [h c]

theorem trimChars_of_forall {text : List Char} (h : ∀ c ∈ text, isBlank c = false) :
    trimChars text = text := by
  have back : ∀ c ∈ text.reverse, isBlank c = false := by simpa using h
  rw [trimChars, trimStart, dropWhile_isBlank_of_forall h, trimEnd,
    dropWhile_isBlank_of_forall back, List.reverse_reverse]

/-- Blanks around a text are trimmed away, whatever the text is. -/
theorem trimChars_padded {before after : List Char} (hbefore : ∀ c ∈ before, isBlank c = true)
    (hafter : ∀ c ∈ after, isBlank c = true) (text : List Char) :
    trimChars (before ++ text ++ after) = trimChars text := by
  have blank : after.dropWhile isBlank = [] := List.dropWhile_eq_nil_iff.mpr hafter
  have back : ∀ c ∈ after.reverse, isBlank c = true := by simpa using hafter
  have start : trimStart (before ++ text ++ after) =
      if (trimStart text).isEmpty then [] else trimStart text ++ after := by
    rw [trimStart, List.append_assoc, List.dropWhile_append_of_pos hbefore, List.dropWhile_append,
      blank]
    rfl
  rw [trimChars, start, trimChars]
  split
  next empty => rw [List.isEmpty_iff.mp empty]
  next =>
    rw [trimEnd, trimEnd, List.reverse_append, List.dropWhile_append_of_pos back]

end Stockroom.Text
