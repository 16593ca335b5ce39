import Stockroom.Text.Numeral
import Mathlib.Tactic.Common
import Mathlib.Tactic.Ring

/-!
# Fixed counts of digits

A number that is written with a fixed count of digits is read back, modulo the
numbers of that count.
-/

namespace Stockroom.Text

theorem decimalDigit?_digitChar {n : Nat} (h : n < 10) :
    decimalDigit? n.digitChar = some n := by
  have all : ∀ n < 10, decimalDigit? (Nat.digitChar n) = some n := by decide
  exact all n h

theorem hexDigit?_digitChar {n : Nat} (h : n < 16) : hexDigit? n.digitChar = some n := by
  have all : ∀ n < 16, hexDigit? (Nat.digitChar n) = some n := by decide
  exact all n h

theorem exists_digitChar_of_mem_paddedDigits {base width n : Nat} (hbase : 0 < base) {c : Char}
    (h : c ∈ paddedDigits base width n) : ∃ digit < base, digit.digitChar = c := by
  induction width generalizing n with
  | zero => simp [paddedDigits] at h
  | succ width ih =>
      rcases List.mem_append.mp h with front | last
      · exact ih front
      · exact ⟨n % base, Nat.mod_lt _ hbase, (List.mem_singleton.mp last).symm⟩

theorem isDigit_of_mem_paddedDigits {width n : Nat} {c : Char}
    (h : c ∈ paddedDigits 10 width n) : c.isDigit = true := by
  obtain ⟨digit, small, rfl⟩ := exists_digitChar_of_mem_paddedDigits (by decide) h
  simpa [Nat.isDigit_digitChar] using small

theorem shift_mod (base width value n : Nat) :
    base * (value * base ^ width + n / base % base ^ width) + n % base =
      value * base ^ (width + 1) + n % base ^ (width + 1) := by
  rw [pow_succ', Nat.mod_mul]
  ring

/-! ## Decimal digits -/

theorem takeDigits?_add (value first second : Nat) (text : List Char) :
    takeDigits? value (first + second) text =
      (takeDigits? value first text).bind fun read => takeDigits? read.1 second read.2 := by
  induction first generalizing value text with
  | zero => simp [takeDigits?]
  | succ first ih =>
      rw [Nat.add_right_comm]
      cases text with
      | nil => rfl
      | cons c text =>
          simp only [takeDigits?]
          cases decimalDigit? c with
          | none => rfl
          | some digit => exact ih _ _

theorem takeDigits?_paddedDigits (value width n : Nat) (rest : List Char) :
    takeDigits? value width (paddedDigits 10 width n ++ rest) =
      some (value * 10 ^ width + n % 10 ^ width, rest) := by
  induction width generalizing n rest with
  | zero => simp [takeDigits?, paddedDigits, Nat.mod_one]
  | succ width ih =>
      have last := decimalDigit?_digitChar (n := n % 10) (Nat.mod_lt _ (by decide))
      rw [takeDigits?_add, paddedDigits, List.append_assoc, ih, Option.bind_some]
      simp only [takeDigits?, List.cons_append, List.nil_append, last, shift_mod]

theorem digitsValue_paddedDigits (width n : Nat) :
    digitsValue (paddedDigits 10 width n) = n % 10 ^ width := by
  induction width generalizing n with
  | zero => simp [digitsValue, paddedDigits, Nat.mod_one]
  | succ width ih =>
      have whole := shift_mod 10 width 0 n
      have front : Nat.ofDigitChars 10 (paddedDigits 10 width (n / 10)) 0 =
          n / 10 % 10 ^ width := ih (n / 10)
      rw [digitsValue, paddedDigits, Nat.ofDigitChars_append, front,
        Nat.ofDigitChars_cons_digitChar_of_lt_ten (Nat.mod_lt _ (by decide)),
        Nat.ofDigitChars_nil]
      simpa using whole

/-! ## Hexadecimal digits -/

theorem readHex_append (value : Nat) (a b : List Char) :
    readHex value (a ++ b) = (readHex value a).bind (readHex · b) := by
  induction a generalizing value with
  | nil => rfl
  | cons c a ih =>
      simp only [List.cons_append, readHex]
      cases hexDigit? c with
      | none => rfl
      | some digit => exact ih _

theorem readHex_paddedDigits (value width n : Nat) :
    readHex value (paddedDigits 16 width n) = some (value * 16 ^ width + n % 16 ^ width) := by
  induction width generalizing n with
  | zero => simp [readHex, paddedDigits, Nat.mod_one]
  | succ width ih =>
      have last := hexDigit?_digitChar (n := n % 16) (Nat.mod_lt _ (by decide))
      rw [paddedDigits, readHex_append, ih, Option.bind_some]
      simp only [readHex, last, shift_mod]

end Stockroom.Text
