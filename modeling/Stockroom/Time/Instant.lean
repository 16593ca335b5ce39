import Stockroom.Text.Numeral
import Stockroom.Time.Date

/-!
# Instants and their written form

An instant counts seconds from the start of 1970 in universal time, with a
fraction in nanoseconds.  A fraction of a whole second or more lies inside a
leap second, which is written as second 60.  The written form is the date and
the time of day with a `Z`; years of more than four digits, and years before the
year 0, carry a sign.
-/

namespace Stockroom

structure Instant where
  seconds : Int
  nanos : Nat
  nanos_lt : nanos < 2000000000 := by decide
  deriving DecidableEq, Repr

namespace Instant

def billion : Nat := 1000000000

def secondsPerDay : Int := 86400

/-- An instant, if the fraction ends before the leap second does. -/
def ofParts? (seconds : Int) (nanos : Nat) : Option Instant :=
  if h : nanos < 2000000000 then some ⟨seconds, nanos, h⟩ else none

theorem ofParts?_of_lt (seconds : Int) {nanos : Nat} (h : nanos < 2000000000) :
    ofParts? seconds nanos = some ⟨seconds, nanos, h⟩ := by
  simp [ofParts?, h]

/-! ## Writing -/

def yearChars (year : Int) : List Char :=
  if 0 ≤ year ∧ year ≤ 9999 then Text.paddedDigits 10 4 year.toNat
  else (if year < 0 then '-' else '+') :: Text.atLeastDigits 4 year.natAbs

def twoDigits (n : Nat) : List Char := Text.paddedDigits 10 2 n

/-- All nine digits of the fraction. -/
def fullFraction (nanos : Nat) : List Char := '.' :: Text.paddedDigits 10 9 nanos

/-- The fewest of none, three, six or nine digits that show the fraction exactly. -/
def briefFraction (nanos : Nat) : List Char :=
  if nanos = 0 then []
  else if nanos % 1000000 = 0 then '.' :: Text.paddedDigits 10 3 (nanos / 1000000)
  else if nanos % 1000 = 0 then '.' :: Text.paddedDigits 10 6 (nanos / 1000)
  else fullFraction nanos

def write (fraction : Nat → List Char) (instant : Instant) : List Char :=
  let date := Date.ofDayNumber (instant.seconds / secondsPerDay)
  let second := (instant.seconds % secondsPerDay).toNat
  yearChars date.year ++ '-' :: twoDigits date.month ++ '-' :: twoDigits date.day ++
    'T' :: twoDigits (second / 3600) ++ ':' :: twoDigits (second / 60 % 60) ++
    ':' :: twoDigits (second % 60 + instant.nanos / billion) ++
    fraction (instant.nanos % billion) ++ ['Z']

/-- The form that keeps every nanosecond visible. -/
def render (instant : Instant) : String := String.ofList (instant.write fullFraction)

/-- The form with the shortest exact fraction. -/
def renderBrief (instant : Instant) : String := String.ofList (instant.write briefFraction)

end Instant

end Stockroom
