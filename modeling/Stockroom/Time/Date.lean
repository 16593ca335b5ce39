/-!
# The calendar

Dates of the Gregorian calendar, extended to all years, and their day numbers:
days counted from the first of January 1970.  Both directions count years from
March, so that the leap day is the last day of its year.
-/

namespace Stockroom

structure Date where
  year : Int
  month : Nat
  day : Nat
  deriving DecidableEq, Repr

namespace Date

def isLeapYear (year : Int) : Bool :=
  year % 4 == 0 && (year % 100 != 0 || year % 400 == 0)

def daysInMonth (year : Int) (month : Nat) : Nat :=
  if month = 2 then (if isLeapYear year then 29 else 28)
  else if month = 4 ∨ month = 6 ∨ month = 9 ∨ month = 11 then 30
  else 31

/-- The years that an instant can lie in. -/
def leastYear : Int := -262143

def greatestYear : Int := 262142

def yearInRange (year : Int) : Bool := leastYear ≤ year && year ≤ greatestYear

def isValid (date : Date) : Bool :=
  yearInRange date.year && 1 ≤ date.month && date.month ≤ 12 && 1 ≤ date.day &&
    date.day ≤ daysInMonth date.year date.month

/-- The day number of the first of March in the year 0, negated. -/
def epochShift : Int := 719468

/-- The days of a year that starts in March which lie before the month. -/
def daysBefore (marchMonth : Int) : Int := (153 * marchMonth + 2) / 5

def dayNumber (date : Date) : Int :=
  let year := if date.month ≤ 2 then date.year - 1 else date.year
  let month : Int := if date.month ≤ 2 then date.month + 9 else date.month - 3
  365 * year + year / 4 - year / 100 + year / 400 + daysBefore month + date.day - 1 -
    epochShift

/-- The date with the given day number. -/
def ofDayNumber (number : Int) : Date :=
  let days := number + epochShift
  let era := days / 146097
  let dayOfEra := days % 146097
  let yearOfEra :=
    (dayOfEra - dayOfEra / 1460 + dayOfEra / 36524 - dayOfEra / 146096) / 365
  let dayOfYear := dayOfEra - (365 * yearOfEra + yearOfEra / 4 - yearOfEra / 100)
  let month := (5 * dayOfYear + 2) / 153
  let day := dayOfYear - daysBefore month + 1
  let year := yearOfEra + 400 * era
  if month < 10 then ⟨year, (month + 3).toNat, day.toNat⟩
  else ⟨year + 1, (month - 9).toNat, day.toNat⟩

end Date

end Stockroom
