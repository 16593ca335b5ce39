import Stockroom.Text.Blank
import Stockroom.Time.Instant

/-!
# Reading instants

Timestamps are read in two forms.  The strict form is a full date and time with
two-digit fields and a zone of `Z` or a signed `hh:mm`; it is asked of filter
values and tokens.  The loose form also takes blanks between the parts, fields
of one digit, signed years, the zone name `UTC` and zones without a colon; it is
asked of stored devices.  The second 60 is taken at any minute and becomes a
fraction past the second before it.
-/

namespace Stockroom

/-- The fields of a timestamp; the zone is in minutes east of universal time. -/
structure Stamp where
  date : Date
  hour : Nat
  minute : Nat
  second : Nat
  nanos : Nat
  zone : Int
  deriving DecidableEq, Repr

namespace Stamp

/-- The instant of a stamp whose fields are all in range. -/
def instant? (stamp : Stamp) : Option Instant :=
  let seconds := stamp.date.dayNumber * Instant.secondsPerDay + stamp.hour * 3600 +
    stamp.minute * 60 + min stamp.second 59 - stamp.zone * 60
  let leap := if stamp.second = 60 then Instant.billion else 0
  if stamp.date.isValid ∧ stamp.hour < 24 ∧ stamp.minute < 60 ∧ stamp.second ≤ 60 ∧
      stamp.zone.natAbs < 24 * 60 ∧
      Date.yearInRange (Date.ofDayNumber (seconds / Instant.secondsPerDay)).year then
    Instant.ofParts? seconds (stamp.nanos + leap)
  else none

/-! ## Parts of both forms -/

def expect? (c : Char) : List Char → Option (List Char)
  | [] => none
  | d :: rest => if d = c then some rest else none

/-- The mark between date and time. -/
def separator? : List Char → Option (List Char)
  | 'T' :: rest | 't' :: rest | ' ' :: rest => some rest
  | _ => none

/-- A fraction behind a point; digits past the ninth are dropped. -/
def fraction? : List Char → Option (Nat × List Char)
  | '.' :: rest =>
      let digits := rest.takeWhile Char.isDigit
      if digits.isEmpty then none
      else
        let kept := digits.take 9
        some (Text.digitsValue kept * Nat.pow 10 (9 - kept.length), rest.dropWhile Char.isDigit)
  | text => some (0, text)

/-- The sign of a zone; the minus may be the typographic one. -/
def zoneSign? : List Char → Option (Int × List Char)
  | '+' :: rest => some (1, rest)
  | '-' :: rest | '\u2212' :: rest => some (-1, rest)
  | _ => none

/-- A zone in minutes: `Z`, or signed hours and minutes with what `mark` takes between them. -/
def zone? (mark : List Char → Option (List Char)) : List Char → Option (Int × List Char)
  | 'Z' :: rest | 'z' :: rest => some (0, rest)
  | text => do
      let (sign, rest) ← zoneSign? text
      let (hours, rest) ← Text.takeDigits? 0 2 rest
      let rest ← mark rest
      let (minutes, rest) ← Text.takeDigits? 0 2 rest
      if minutes < 60 then some (sign * (hours * 60 + minutes), rest) else none

/-! ## The strict form -/

def strict? (text : List Char) : Option Stamp := do
  let (year, rest) ← Text.takeDigits? 0 4 text
  let rest ← expect? '-' rest
  let (month, rest) ← Text.takeDigits? 0 2 rest
  let rest ← expect? '-' rest
  let (day, rest) ← Text.takeDigits? 0 2 rest
  let rest ← separator? rest
  let (hour, rest) ← Text.takeDigits? 0 2 rest
  let rest ← expect? ':' rest
  let (minute, rest) ← Text.takeDigits? 0 2 rest
  let rest ← expect? ':' rest
  let (second, rest) ← Text.takeDigits? 0 2 rest
  let (nanos, rest) ← fraction? rest
  let (zone, rest) ← zone? (expect? ':') rest
  if rest.isEmpty then some ⟨⟨year, month, day⟩, hour, minute, second, nanos, zone⟩
  else none

/-! ## The loose form -/

/-- One to `most` digits behind blanks. -/
def number? (most : Nat) (text : List Char) : Option (Nat × List Char) :=
  let text := Text.trimStart text
  let digits := (text.take most).takeWhile Char.isDigit
  if digits.isEmpty then none
  else some (Text.digitsValue digits, text.drop digits.length)

/-- A year of up to four digits, or of any length behind a sign. -/
def year? (text : List Char) : Option (Int × List Char) :=
  let digits? := fun (rest : List Char) =>
    if (rest.takeWhile Char.isDigit).isEmpty then none
    else number? rest.length rest
  match Text.trimStart text with
  | '-' :: rest => (digits? rest).map fun (n, rest) => (-(n : Int), rest)
  | '+' :: rest => (digits? rest).map fun (n, rest) => ((n : Int), rest)
  | rest => (number? 4 rest).map fun (n, rest) => ((n : Int), rest)

/-- A mark with blanks allowed in front of it. -/
def mark? (c : Char) (text : List Char) : Option (List Char) :=
  expect? c (Text.trimStart text)

/-- A zone, or the name of universal time in any case. -/
def namedZone? (text : List Char) : Option (Int × List Char) :=
  if (text.take 3).map Char.toUpper = ['U', 'T', 'C'] then some (0, text.drop 3)
  else zone? (fun rest => some (rest.dropWhile fun c => c == ':' || Text.isBlank c)) text

def loose? (text : List Char) : Option Stamp := do
  let (year, rest) ← year? text
  let rest ← mark? '-' rest
  let (month, rest) ← number? 2 rest
  let rest ← mark? '-' rest
  let (day, rest) ← number? 2 rest
  let rest ← separator? rest
  let (hour, rest) ← number? 2 rest
  let rest ← mark? ':' rest
  let (minute, rest) ← number? 2 rest
  let rest ← mark? ':' rest
  let (second, rest) ← number? 2 rest
  let (nanos, rest) ← fraction? rest
  let (zone, rest) ← namedZone? (Text.trimStart rest)
  if (Text.trimStart rest).isEmpty then
    some ⟨⟨year, month, day⟩, hour, minute, second, nanos, zone⟩
  else none

end Stamp

namespace Instant

def parse? (text : String) : Option Instant := do
  (← Stamp.strict? text.toList).instant?

def parseLoose? (text : String) : Option Instant := do
  (← Stamp.loose? text.toList).instant?

end Instant

end Stockroom
