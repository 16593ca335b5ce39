import Mathlib.Tactic.Common
import Stockroom.Text.Numeral

/-!
# What numerals spell

A numeral is a run of decimal digits, for some numbers behind a sign.  The readers accept
exactly the numerals of the numbers that are in the range of what is read.
-/

namespace Stockroom.Text

/-! ## Results -/

section Results

variable {ε α β : Type} {result : Except ε α}

theorem map_eq_ok_iff {f : α → β} {b : β} :
    result.map f = .ok b ↔ ∃ a, result = .ok a ∧ f a = b := by
  cases result <;> simp [Except.map]

theorem bind_eq_ok_iff {next : α → Except ε β} {b : β} :
    result >>= next = .ok b ↔ ∃ a, result = .ok a ∧ next a = .ok b := by
  cases result <;> simp [bind, Except.bind]

theorem bind_eq_error_iff {next : α → Except ε β} {fault : ε} :
    result >>= next = .error fault ↔
      result = .error fault ∨ ∃ a, result = .ok a ∧ next a = .error fault := by
  cases result <;> simp [bind, Except.bind]

theorem pure_eq_ok_iff {a b : α} : (pure a : Except ε α) = .ok b ↔ a = b := by
  simp [pure, Except.pure]

theorem toOption_eq_some_iff {a : α} : result.toOption = some a ↔ result = .ok a := by
  cases result <;> simp [Except.toOption]

end Results

/-! ## Numerals -/

/-- A run of decimal digits and its value. -/
structure DigitsSpell (digits : List Char) (n : Nat) : Prop where
  ne_nil : digits ≠ []
  isDigit : ∀ c ∈ digits, c.isDigit = true
  value : digitsValue digits = n

/-- Digits behind an optional plus sign. -/
inductive SpellsNatural : List Char → Nat → Prop where
  | plain {digits : List Char} {n : Nat} (spelled : DigitsSpell digits n) : SpellsNatural digits n
  | plus {digits : List Char} {n : Nat} (spelled : DigitsSpell digits n) :
      SpellsNatural ('+' :: digits) n

/-- Digits behind an optional sign. -/
inductive SpellsInteger : List Char → Int → Prop where
  | natural {text : List Char} {n : Nat} (spelled : SpellsNatural text n) : SpellsInteger text n
  | minus {digits : List Char} {n : Nat} (spelled : DigitsSpell digits n) :
      SpellsInteger ('-' :: digits) (-n)

theorem DigitsSpell.head_isDigit {c : Char} {digits : List Char} {n : Nat}
    (h : DigitsSpell (c :: digits) n) : c.isDigit = true :=
  h.isDigit c (List.mem_cons_self ..)

/-! ## Reading digits -/

theorem le_ofDigitChars (digits : List Char) (value : Nat) :
    value ≤ Nat.ofDigitChars 10 digits value := by
  rw [Nat.ofDigitChars_eq_ofDigitChars_zero]
  exact Nat.le_add_right_of_le (Nat.le_mul_of_pos_left value (Nat.pow_pos (by decide)))

theorem readDigits_eq_ok_iff {limit value n : Nat} {digits : List Char} (h : value ≤ limit) :
    readDigits limit value digits = .ok n ↔
      (∀ c ∈ digits, c.isDigit = true) ∧ Nat.ofDigitChars 10 digits value = n ∧ n ≤ limit := by
  induction digits generalizing value with
  | nil =>
      simp only [readDigits, Except.ok.injEq, Nat.ofDigitChars_nil]
      constructor
      · rintro rfl
        exact ⟨by simp, rfl, h⟩
      · exact fun spelled => spelled.2.1
  | cons c digits ih =>
      by_cases digit : c.isDigit = true
      · by_cases fits : 10 * value + (c.toNat - '0'.toNat) ≤ limit
        · simp only [readDigits, decimalDigit?, digit, if_true, if_pos fits, ih fits,
            Nat.ofDigitChars_cons, List.forall_mem_cons, true_and]
        · -- Further digits do not make the number smaller again.
          have beyond := le_ofDigitChars digits (10 * value + (c.toNat - '0'.toNat))
          simp only [readDigits, decimalDigit?, digit, fits, if_true, if_false, reduceCtorEq,
            Nat.ofDigitChars_cons, false_iff, not_and]
          omega
      · simp [readDigits, decimalDigit?, digit]

theorem readDigits_zero_eq_ok_iff {limit n : Nat} {digits : List Char} (h : digits ≠ []) :
    readDigits limit 0 digits = .ok n ↔ DigitsSpell digits n ∧ n ≤ limit := by
  rw [readDigits_eq_ok_iff (Nat.zero_le limit), ← and_assoc]
  exact and_congr_left fun _ => ⟨fun ⟨digit, value⟩ => ⟨h, digit, value⟩,
    fun spelled => ⟨spelled.isDigit, spelled.value⟩⟩

/-! ## Reading numbers in a range -/

theorem readNatural_eq_ok_iff {limit n : Nat} {text : List Char} :
    readNatural limit text = .ok n ↔ SpellsNatural text n ∧ n ≤ limit := by
  unfold readNatural
  split
  next =>
    refine ⟨nofun, fun ⟨spelled, _⟩ => ?_⟩
    cases spelled with
    | plain spelled => exact absurd rfl spelled.ne_nil
  next =>
    refine ⟨nofun, fun ⟨spelled, _⟩ => ?_⟩
    cases spelled with
    | plain spelled => exact absurd spelled.head_isDigit (by decide)
    | plus spelled => exact absurd rfl spelled.ne_nil
  next digits some =>
    rw [readDigits_zero_eq_ok_iff (by simpa using some)]
    refine and_congr_left fun _ => ⟨.plus, fun spelled => ?_⟩
    cases spelled with
    | plain spelled => exact absurd spelled.head_isDigit (by decide)
    | plus spelled => exact spelled
  next some _ unsigned =>
    rw [readDigits_zero_eq_ok_iff (by simpa using some)]
    refine and_congr_left fun _ => ⟨.plain, fun spelled => ?_⟩
    cases spelled with
    | plain spelled => exact spelled
    | plus spelled => exact absurd rfl (unsigned _)

/-- A reader of numbers up to a limit, each of which stands for a natural number. -/
structure ReadsUpTo {α : Type} (limit : Nat) (read : List Char → Except NumeralFault α)
    (toNat : α → Nat) : Prop where
  eq_ok_iff : ∀ {text a}, read text = .ok a ↔ readNatural limit text = .ok (toNat a)
  eq_error_iff : ∀ {text fault}, read text = .error fault ↔ readNatural limit text = .error fault
  toNat_inj : ∀ {a b}, toNat a = toNat b ↔ a = b

theorem readsUpTo_map {α : Type} {limit : Nat} {ofNat : Nat → α} {toNat : α → Nat}
    (ofNat_toNat : ∀ a, ofNat (toNat a) = a)
    (toNat_ofNat : ∀ n ≤ limit, toNat (ofNat n) = n) :
    ReadsUpTo limit (fun text => (readNatural limit text).map ofNat) toNat where
  eq_ok_iff := by
    intro text a
    simp only [map_eq_ok_iff, readNatural_eq_ok_iff]
    constructor
    · rintro ⟨n, ⟨spelled, small⟩, rfl⟩
      rw [toNat_ofNat n small]
      exact ⟨spelled, small⟩
    · exact fun ⟨spelled, small⟩ => ⟨toNat a, ⟨spelled, small⟩, ofNat_toNat a⟩
  eq_error_iff := by
    intro text fault
    cases readNatural limit text <;> simp [Except.map]
  toNat_inj := by
    intro a b
    refine ⟨fun same => ?_, congrArg toNat⟩
    rw [← ofNat_toNat a, same, ofNat_toNat]

theorem readsUpTo_readUInt32 : ReadsUpTo (UInt32.size - 1) readUInt32 UInt32.toNat :=
  readsUpTo_map (fun _ => UInt32.ofNat_toNat)
    fun _ small => UInt32.toNat_ofNat_of_lt' (Nat.lt_of_le_sub_one (by decide) small)

theorem readsUpTo_readUInt64 : ReadsUpTo (UInt64.size - 1) readUInt64 UInt64.toNat :=
  readsUpTo_map (fun _ => UInt64.ofNat_toNat)
    fun _ small => UInt64.toNat_ofNat_of_lt' (Nat.lt_of_le_sub_one (by decide) small)

/-- The least number of 64 bits is one further from zero than the greatest one. -/
theorem readInt64_eq_ok_iff {text : List Char} {a : Int64} :
    readInt64 text = .ok a ↔ SpellsInteger text a.toInt := by
  have low := a.le_toInt
  have high := a.toInt_lt
  unfold readInt64
  split
  next digit digits =>
    simp only [map_eq_ok_iff, bind_eq_ok_iff, pure_eq_ok_iff, Nat.pow_eq,
      readDigits_zero_eq_ok_iff (List.cons_ne_nil digit digits)]
    constructor
    · rintro ⟨_, ⟨n, ⟨spelled, small⟩, rfl⟩, rfl⟩
      rw [Int64.toInt_ofInt_of_le (by omega) (by omega)]
      exact .minus spelled
    · generalize hvalue : a.toInt = value at low high ⊢
      intro h
      cases h with
      | natural spelled => cases spelled with
        | plain spelled => exact absurd spelled.head_isDigit (by decide)
      | @minus _ n spelled =>
          exact ⟨n, ⟨n, ⟨spelled, by omega⟩, rfl⟩, by rw [← hvalue, Int64.ofInt_toInt]⟩
  next text unsigned =>
    simp only [map_eq_ok_iff, bind_eq_ok_iff, pure_eq_ok_iff, Nat.pow_eq, readNatural_eq_ok_iff]
    constructor
    · rintro ⟨_, ⟨n, ⟨spelled, small⟩, rfl⟩, rfl⟩
      rw [Int64.toInt_ofInt_of_le (by omega) (by omega)]
      exact .natural spelled
    · generalize hvalue : a.toInt = value at low high ⊢
      intro h
      cases h with
      | @natural _ n spelled =>
          exact ⟨n, ⟨n, ⟨spelled, by omega⟩, rfl⟩, by rw [← hvalue, Int64.ofInt_toInt]⟩
      | @minus digits n spelled => cases digits with
        | nil => exact absurd rfl spelled.ne_nil
        | cons digit digits => exact absurd rfl (unsigned digit digits)

end Stockroom.Text
