import Stockroom.Proofs.Text.Digits
import Stockroom.Proofs.Time.Calendar
import Stockroom.Time.Reading

/-!
# Timestamps are read back

The written form of an instant with a year of four digits is a strict timestamp.
A fraction of a whole second or more is written as second 60, so it must lie at
the end of a minute to be found again.  Every other year is written with a sign,
which a strict timestamp cannot have.
-/

namespace Stockroom

open Text

namespace Instant

/-- The year has four digits and a leap second lies at the end of its minute. -/
structure Readable (instant : Instant) : Prop where
  year : 0 ≤ (Date.ofDayNumber (instant.seconds / secondsPerDay)).year ∧
    (Date.ofDayNumber (instant.seconds / secondsPerDay)).year ≤ 9999
  leap : billion ≤ instant.nanos → instant.seconds % 60 = 59

def stamp (instant : Instant) : Stamp :=
  let second := (instant.seconds % secondsPerDay).toNat
  { date := Date.ofDayNumber (instant.seconds / secondsPerDay)
    hour := second / 3600
    minute := second / 60 % 60
    second := second % 60 + instant.nanos / billion
    nanos := instant.nanos % billion
    zone := 0 }

theorem second_lt (instant : Instant) : (instant.seconds % secondsPerDay).toNat < 86400 := by
  have low := Int.emod_nonneg instant.seconds (b := secondsPerDay) (by decide)
  have high := Int.emod_lt_of_pos instant.seconds (b := secondsPerDay) (by decide)
  simp only [secondsPerDay] at *
  omega

theorem Readable.yearInRange {instant : Instant} (h : instant.Readable) :
    Date.yearInRange (Date.ofDayNumber (instant.seconds / secondsPerDay)).year = true := by
  have year := h.year
  have low : Date.leastYear ≤ (Date.ofDayNumber (instant.seconds / secondsPerDay)).year := by
    unfold Date.leastYear
    omega
  have high : (Date.ofDayNumber (instant.seconds / secondsPerDay)).year ≤ Date.greatestYear := by
    unfold Date.greatestYear
    omega
  simp only [Date.yearInRange, low, high, decide_true, Bool.and_self]

theorem Readable.stamp_bounds {instant : Instant} (h : instant.Readable) :
    instant.stamp.date.month < 100 ∧ instant.stamp.date.day < 100 ∧
      instant.stamp.hour < 24 ∧ instant.stamp.minute < 60 ∧ instant.stamp.second ≤ 60 := by
  have valid := Date.isValid_ofDayNumber h.yearInRange
  have most := Date.daysInMonth_le (Date.ofDayNumber (instant.seconds / secondsPerDay)).year
    (Date.ofDayNumber (instant.seconds / secondsPerDay)).month
  have early := instant.second_lt
  have minuteOf : (instant.seconds % secondsPerDay).toNat % 60 = (instant.seconds % 60).toNat := by
    simp only [secondsPerDay]
    omega
  have last : (instant.seconds % secondsPerDay).toNat % 60 + instant.nanos / billion ≤ 60 := by
    have leap := h.leap
    have below := instant.nanos_lt
    simp only [billion] at *
    omega
  simp only [Date.isValid, Bool.and_eq_true, decide_eq_true_eq] at valid
  simp only [stamp]
  omega

end Instant

namespace Stamp

theorem fraction?_fullFraction (nanos : Nat) :
    fraction? (Instant.fullFraction nanos ++ ['Z']) = some (nanos % 10 ^ 9, ['Z']) := by
  have digits : ∀ c ∈ paddedDigits 10 9 nanos, c.isDigit = true := fun c =>
    isDigit_of_mem_paddedDigits
  have taken : (paddedDigits 10 9 nanos ++ ['Z']).takeWhile Char.isDigit =
      paddedDigits 10 9 nanos := by
    rw [List.takeWhile_append_of_pos digits]
    simp
  have left : (paddedDigits 10 9 nanos ++ ['Z']).dropWhile Char.isDigit = ['Z'] := by
    rw [List.dropWhile_append_of_pos digits]
    simp
  have some : (paddedDigits 10 9 nanos).isEmpty = false := by
    simp [List.isEmpty_eq_false_iff, ← List.length_pos_iff]
  have kept : (paddedDigits 10 9 nanos).take 9 = paddedDigits 10 9 nanos :=
    List.take_of_length_le (by simp)
  simp only [Instant.fullFraction, List.cons_append, fraction?, taken, left, some, kept,
    length_paddedDigits, digitsValue_paddedDigits]
  simp

@[simp] theorem expect?_self (c : Char) (rest : List Char) : expect? c (c :: rest) = some rest := by
  simp [expect?]

/-- What stands in the strict form between the marks. -/
theorem strict?_eq {year month day hour minute second nanos : Nat} :
    strict? (paddedDigits 10 4 year ++ '-' :: (paddedDigits 10 2 month ++
      '-' :: (paddedDigits 10 2 day ++ 'T' :: (paddedDigits 10 2 hour ++
      ':' :: (paddedDigits 10 2 minute ++ ':' :: (paddedDigits 10 2 second ++
      (Instant.fullFraction nanos ++ ['Z']))))))) =
    some ⟨⟨((year % 10 ^ 4 : Nat) : Int), month % 10 ^ 2, day % 10 ^ 2⟩, hour % 10 ^ 2,
      minute % 10 ^ 2, second % 10 ^ 2, nanos % 10 ^ 9, 0⟩ := by
  have digits : ∀ width n rest, takeDigits? 0 width (paddedDigits 10 width n ++ rest) =
      some (n % 10 ^ width, rest) := by
    intro width n rest
    rw [takeDigits?_paddedDigits, Nat.zero_mul, Nat.zero_add]
  refine Option.bind_eq_some_iff.mpr ⟨_, digits 4 year _, ?_⟩
  refine Option.bind_eq_some_iff.mpr ⟨_, expect?_self '-' _, ?_⟩
  refine Option.bind_eq_some_iff.mpr ⟨_, digits 2 month _, ?_⟩
  refine Option.bind_eq_some_iff.mpr ⟨_, expect?_self '-' _, ?_⟩
  refine Option.bind_eq_some_iff.mpr ⟨_, digits 2 day _, ?_⟩
  refine Option.bind_eq_some_iff.mpr ⟨_, rfl, ?_⟩
  refine Option.bind_eq_some_iff.mpr ⟨_, digits 2 hour _, ?_⟩
  refine Option.bind_eq_some_iff.mpr ⟨_, expect?_self ':' _, ?_⟩
  refine Option.bind_eq_some_iff.mpr ⟨_, digits 2 minute _, ?_⟩
  refine Option.bind_eq_some_iff.mpr ⟨_, expect?_self ':' _, ?_⟩
  refine Option.bind_eq_some_iff.mpr ⟨_, digits 2 second _, ?_⟩
  refine Option.bind_eq_some_iff.mpr ⟨_, fraction?_fullFraction nanos, ?_⟩
  rfl

theorem strict?_write {instant : Instant} (h : instant.Readable) :
    strict? (instant.write Instant.fullFraction) = some instant.stamp := by
  have year := h.year
  obtain ⟨month, day, hour, minute, second⟩ := h.stamp_bounds
  simp only [Instant.stamp] at month day hour minute second
  have yearValue :
      (((Date.ofDayNumber (instant.seconds / Instant.secondsPerDay)).year.toNat % 10 ^ 4 : Nat) :
        Int) = (Date.ofDayNumber (instant.seconds / Instant.secondsPerDay)).year := by
    omega
  have pair : ∀ n < 100, n % 10 ^ 2 = n := by omega
  have nanosValue : instant.nanos % Instant.billion % 10 ^ 9 = instant.nanos % Instant.billion :=
    Nat.mod_mod _ _
  simp only [Instant.write, Instant.yearChars, if_pos year, Instant.twoDigits, List.append_assoc,
    List.cons_append]
  rw [strict?_eq, yearValue, nanosValue, pair _ month, pair _ day, pair _ (by omega),
    pair _ (by omega), pair _ (by omega)]
  rfl

end Stamp

namespace Instant

theorem instant?_stamp {instant : Instant} (h : instant.Readable) :
    instant.stamp.instant? = some instant := by
  have leap := h.leap
  have below := instant.nanos_lt
  have early := instant.second_lt
  obtain ⟨month, day, hour, minute, second⟩ := h.stamp_bounds
  have valid : instant.stamp.date.isValid = true := Date.isValid_ofDayNumber h.yearInRange
  have dayValue : instant.stamp.date.dayNumber = instant.seconds / secondsPerDay :=
    Date.dayNumber_ofDayNumber _
  -- A second 60 counts as the second before it, and its fraction as one of a whole second more.
  have secondsValue : instant.stamp.date.dayNumber * secondsPerDay +
      (instant.stamp.hour : Int) * 3600 + (instant.stamp.minute : Int) * 60 +
      ((min instant.stamp.second 59 : Nat) : Int) - instant.stamp.zone * 60 =
      instant.seconds := by
    rw [dayValue]
    simp only [stamp, billion, secondsPerDay] at *
    omega
  have nanosValue : instant.stamp.nanos + (if instant.stamp.second = 60 then billion else 0) =
      instant.nanos := by
    by_cases top : instant.stamp.second = 60
    · rw [if_pos top]
      simp only [stamp, billion, secondsPerDay] at *
      omega
    · rw [if_neg top]
      simp only [stamp, billion, secondsPerDay] at *
      omega
  have zone : instant.stamp.zone = 0 := rfl
  rw [Stamp.instant?]
  simp only [secondsValue, nanosValue]
  rw [if_pos ⟨valid, hour, minute, second, by simp [zone], h.yearInRange⟩, ofParts?_of_lt _ below]

theorem parse?_render {instant : Instant} (h : instant.Readable) :
    parse? instant.render = some instant := by
  rw [parse?, render, String.toList_ofList, Stamp.strict?_write h, Option.bind_eq_bind,
    Option.bind_some, instant?_stamp h]

/-! ## Years of more than four digits -/

def year (instant : Instant) : Int := (Date.ofDayNumber (instant.seconds / secondsPerDay)).year

/-- A leap second lies at the end of its minute. -/
def LeapEndsMinute (instant : Instant) : Prop :=
  billion ≤ instant.nanos → instant.seconds % 60 = 59

instance (instant : Instant) : Decidable instant.LeapEndsMinute :=
  inferInstanceAs (Decidable (billion ≤ instant.nanos → instant.seconds % 60 = 59))

theorem LeapEndsMinute.readable {instant : Instant} (h : instant.LeapEndsMinute)
    (hyear : 0 ≤ instant.year ∧ instant.year ≤ 9999) : instant.Readable := ⟨hyear, h⟩

/-- A signed year is no strict one. -/
theorem parse?_render_of_signed {instant : Instant}
    (h : ¬(0 ≤ instant.year ∧ instant.year ≤ 9999)) : parse? instant.render = none := by
  obtain ⟨sign, digits, hyear, hsign⟩ : ∃ sign digits, yearChars instant.year = sign :: digits ∧
      decimalDigit? sign = none := by
    rw [yearChars, if_neg h]
    refine ⟨_, _, rfl, ?_⟩
    split <;> rfl
  have written : ∃ rest, instant.write fullFraction = sign :: rest := by
    rw [write, ← year, hyear]
    exact ⟨_, rfl⟩
  obtain ⟨rest, hrest⟩ := written
  have refused : takeDigits? 0 4 (sign :: rest) = none := by simp [takeDigits?, hsign]
  have unread : Stamp.strict? (sign :: rest) = none := by
    rw [Stamp.strict?, refused]
    rfl
  rw [parse?, render, String.toList_ofList, hrest, unread]
  rfl

end Instant

end Stockroom
