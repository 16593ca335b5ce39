import Stockroom.Time.Date
import Mathlib.Tactic.IntervalCases
import Mathlib.Tactic.Linarith
import Mathlib.Tactic.Ring

/-!
# Dates of day numbers

The date with a given day number is a day of the calendar, and it has that day
number.  Years are counted from March inside an era of 400 years: an era is four
centuries of 36524 days and a leap day, a century is 24 groups of four years
with 1461 days each and a shorter one.
-/

namespace Stockroom.Date

/-! ## The year inside an era -/

def yearOfEra (dayOfEra : Int) : Int :=
  (dayOfEra - dayOfEra / 1460 + dayOfEra / 36524 - dayOfEra / 146096) / 365

def dayOfYear (dayOfEra : Int) : Int :=
  dayOfEra - (365 * yearOfEra dayOfEra + yearOfEra dayOfEra / 4 - yearOfEra dayOfEra / 100)

/-- A day of an era is its last day, or it lies in a century and in a group of four years. -/
theorem century_or_last {dayOfEra : Int} (low : 0 ≤ dayOfEra) (high : dayOfEra < 146097) :
    dayOfEra = 146096 ∨ ∃ century group day : Int,
      dayOfEra = 36524 * century + 1461 * group + day ∧ 0 ≤ century ∧ century ≤ 3 ∧
        0 ≤ group ∧ group ≤ 24 ∧ 0 ≤ day ∧ day ≤ 1460 ∧ (group = 24 → day ≤ 1459) := by
  rcases eq_or_ne dayOfEra 146096 with rfl | hlast
  · exact .inl rfl
  · refine .inr ⟨dayOfEra / 36524, dayOfEra % 36524 / 1461, dayOfEra % 36524 % 1461, ?_⟩
    omega

theorem yearOfEra_eq {century group day : Int} (hcentury : 0 ≤ century ∧ century ≤ 3)
    (hgroup : 0 ≤ group ∧ group ≤ 24) (hday : 0 ≤ day ∧ day ≤ 1460)
    (hlast : group = 24 → day ≤ 1459) :
    yearOfEra (36524 * century + 1461 * group + day) =
      100 * century + 4 * group + min (day / 365) 3 := by
  have byCentury : (36524 * century + 1461 * group + day) / 36524 = century := by omega
  have byEra : (36524 * century + 1461 * group + day) / 146096 = 0 := by omega
  rw [yearOfEra, byCentury, byEra]
  -- Near the end of a group the estimate by 1460 days is one too high, which 365 absorbs.
  rcases lt_or_ge (24 * century + group + day) 1460 with early | late
  · have byGroup : (36524 * century + 1461 * group + day) / 1460 = 25 * century + group := by
      omega
    rw [byGroup]
    omega
  · have byGroup : (36524 * century + 1461 * group + day) / 1460 = 25 * century + group + 1 := by
      omega
    rw [byGroup]
    omega

theorem yearOfEra_bounds {dayOfEra : Int} (low : 0 ≤ dayOfEra) (high : dayOfEra < 146097) :
    0 ≤ yearOfEra dayOfEra ∧ yearOfEra dayOfEra ≤ 399 := by
  rcases century_or_last low high with rfl | ⟨century, group, day, rfl, h0, h1, h2, h3, h4, h5, h6⟩
  · decide
  · rw [yearOfEra_eq ⟨h0, h1⟩ ⟨h2, h3⟩ ⟨h4, h5⟩ h6]
    omega

/-- A year has a day 365 only if it ends with a leap day. -/
theorem dayOfYear_bounds {dayOfEra : Int} (low : 0 ≤ dayOfEra) (high : dayOfEra < 146097) :
    0 ≤ dayOfYear dayOfEra ∧ dayOfYear dayOfEra ≤ 365 ∧
      (dayOfYear dayOfEra = 365 → (yearOfEra dayOfEra + 1) % 4 = 0 ∧
        ((yearOfEra dayOfEra + 1) % 100 ≠ 0 ∨ (yearOfEra dayOfEra + 1) % 400 = 0)) := by
  rcases century_or_last low high with rfl | ⟨century, group, day, rfl, h0, h1, h2, h3, h4, h5, h6⟩
  · decide
  · have year := yearOfEra_eq ⟨h0, h1⟩ ⟨h2, h3⟩ ⟨h4, h5⟩ h6
    have leaps : (100 * century + 4 * group + min (day / 365) 3) / 4 = 25 * century + group := by
      omega
    have skipped : (100 * century + 4 * group + min (day / 365) 3) / 100 = century := by
      omega
    have first : dayOfYear (36524 * century + 1461 * group + day) =
        day - 365 * min (day / 365) 3 := by
      rw [dayOfYear, year, leaps, skipped]
      ring
    rw [first, year]
    refine ⟨by omega, by omega, fun hday => ⟨by omega, .inl (by omega)⟩⟩

/-! ## Months -/

theorem month_bounds {day : Int} (low : 0 ≤ day) (high : day ≤ 365) :
    0 ≤ (5 * day + 2) / 153 ∧ (5 * day + 2) / 153 ≤ 11 := by
  omega

/-- The last month, counted from March, is February; its length is that of its year. -/
theorem day_bounds {day : Int} (low : 0 ≤ day) (high : day ≤ 365) {month year : Int}
    (hmonth : month = (5 * day + 2) / 153)
    (hleap : day = 365 → isLeapYear (year + 1) = true) :
    1 ≤ day - daysBefore month + 1 ∧
      (day - daysBefore month + 1).toNat ≤
        if month < 10 then daysInMonth year (month + 3).toNat
        else daysInMonth (year + 1) (month - 9).toNat := by
  obtain ⟨first, last⟩ := month_bounds low high
  rw [← hmonth] at first last
  unfold daysBefore
  refine ⟨by omega, ?_⟩
  interval_cases month
  case «11» =>
    rcases eq_or_ne day 365 with hday | hday
    · simp [daysInMonth, hleap hday]
      omega
    · simp [daysInMonth]
      split <;> omega
  all_goals
    simp [daysInMonth]
    omega

/-! ## Dates -/

theorem isLeapYear_era {year era : Int} (h4 : year % 4 = 0)
    (h100 : year % 100 ≠ 0 ∨ year % 400 = 0) : isLeapYear (year + 400 * era) = true := by
  have hfour : (year + 400 * era) % 4 = 0 := by omega
  have hcentury : (year + 400 * era) % 100 ≠ 0 ∨ (year + 400 * era) % 400 = 0 := by omega
  simpa [isLeapYear, hfour] using hcentury

/-- The date whose year, month and day are counted from March inside an era. -/
def ofEra (era dayOfEra : Int) : Date :=
  let month := (5 * dayOfYear dayOfEra + 2) / 153
  let day := (dayOfYear dayOfEra - daysBefore month + 1).toNat
  if month < 10 then ⟨yearOfEra dayOfEra + 400 * era, (month + 3).toNat, day⟩
  else ⟨yearOfEra dayOfEra + 400 * era + 1, (month - 9).toNat, day⟩

theorem ofDayNumber_eq (number : Int) :
    ofDayNumber number =
      ofEra ((number + epochShift) / 146097) ((number + epochShift) % 146097) := rfl

theorem dayNumber_ofEra {era dayOfEra : Int} (low : 0 ≤ dayOfEra) (high : dayOfEra < 146097) :
    (ofEra era dayOfEra).dayNumber = 146097 * era + dayOfEra - epochShift := by
  obtain ⟨yearLow, yearHigh⟩ := yearOfEra_bounds low high
  obtain ⟨dayLow, dayHigh, -⟩ := dayOfYear_bounds low high
  obtain ⟨monthLow, monthHigh⟩ := month_bounds dayLow dayHigh
  have whole : dayOfEra = dayOfYear dayOfEra +
      (365 * yearOfEra dayOfEra + yearOfEra dayOfEra / 4 - yearOfEra dayOfEra / 100) := by
    rw [dayOfYear]
    ring
  generalize hyear : yearOfEra dayOfEra = year at *
  generalize hday : dayOfYear dayOfEra = day at *
  generalize hmonth : (5 * day + 2) / 153 = month at *
  have fours : (year + 400 * era) / 4 = year / 4 + 100 * era := by omega
  have hundreds : (year + 400 * era) / 100 = year / 100 + 4 * era := by omega
  have eras : (year + 400 * era) / 400 = era := by omega
  have start : 1 ≤ day - daysBefore month + 1 := by
    unfold daysBefore
    omega
  have dayCount : ((day - daysBefore month + 1).toNat : Int) = day - daysBefore month + 1 :=
    Int.toNat_of_nonneg (by omega)
  simp only [ofEra, hyear, hday, hmonth]
  split
  next early =>
      have monthCount : ((month + 3).toNat : Int) = month + 3 := Int.toNat_of_nonneg (by omega)
      have large : ¬ (month + 3).toNat ≤ 2 := by omega
      simp only [dayNumber, large, if_false, monthCount, dayCount, add_sub_cancel_right, fours,
        hundreds, eras]
      linarith
  next late =>
      have monthCount : ((month - 9).toNat : Int) = month - 9 := Int.toNat_of_nonneg (by omega)
      have small : (month - 9).toNat ≤ 2 := by omega
      simp only [dayNumber, small, if_true, monthCount, dayCount, add_sub_cancel_right,
        sub_add_cancel, fours, hundreds, eras]
      linarith

@[simp] theorem dayNumber_ofDayNumber (number : Int) :
    (ofDayNumber number).dayNumber = number := by
  rw [ofDayNumber_eq, dayNumber_ofEra (by omega) (by omega)]
  omega

theorem daysInMonth_le (year : Int) (month : Nat) : daysInMonth year month ≤ 31 := by
  unfold daysInMonth
  split_ifs <;> decide

theorem isValid_ofEra {era dayOfEra : Int} (low : 0 ≤ dayOfEra) (high : dayOfEra < 146097)
    (h : yearInRange (ofEra era dayOfEra).year = true) : (ofEra era dayOfEra).isValid = true := by
  obtain ⟨dayLow, dayHigh, leap⟩ := dayOfYear_bounds low high
  obtain ⟨monthLow, monthHigh⟩ := month_bounds dayLow dayHigh
  have leapDay : dayOfYear dayOfEra = 365 →
      isLeapYear (yearOfEra dayOfEra + 400 * era + 1) = true := by
    intro hday
    obtain ⟨h4, h100⟩ := leap hday
    rw [show yearOfEra dayOfEra + 400 * era + 1 = yearOfEra dayOfEra + 1 + 400 * era by ring]
    exact isLeapYear_era h4 h100
  obtain ⟨first, last⟩ := day_bounds dayLow dayHigh rfl leapDay
  by_cases early : (5 * dayOfYear dayOfEra + 2) / 153 < 10
  · simp only [ofEra, if_pos early] at h ⊢
    rw [if_pos early] at last
    have monthOk : 1 ≤ ((5 * dayOfYear dayOfEra + 2) / 153 + 3).toNat ∧
        ((5 * dayOfYear dayOfEra + 2) / 153 + 3).toNat ≤ 12 := by omega
    have dayOk : 1 ≤ (dayOfYear dayOfEra -
        daysBefore ((5 * dayOfYear dayOfEra + 2) / 153) + 1).toNat := by omega
    simp [isValid, h, monthOk, dayOk, last]
  · simp only [ofEra, if_neg early] at h ⊢
    rw [if_neg early] at last
    have monthOk : 1 ≤ ((5 * dayOfYear dayOfEra + 2) / 153 - 9).toNat ∧
        ((5 * dayOfYear dayOfEra + 2) / 153 - 9).toNat ≤ 12 := by omega
    have dayOk : 1 ≤ (dayOfYear dayOfEra -
        daysBefore ((5 * dayOfYear dayOfEra + 2) / 153) + 1).toNat := by omega
    simp [isValid, h, monthOk, dayOk, last]

theorem isValid_ofDayNumber {number : Int} (h : yearInRange (ofDayNumber number).year = true) :
    (ofDayNumber number).isValid = true := by
  rw [ofDayNumber_eq] at h ⊢
  exact isValid_ofEra (by omega) (by omega) h

end Stockroom.Date
