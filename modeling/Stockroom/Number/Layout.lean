import Stockroom.Number.Shortest

/-!
# Written forms of doubles

Two texts show doubles.  A displayed value is always positional and shows an
integral value without a point.  A number inside a JSON text keeps a point when
it is positional and uses a signed exponent outside the positional range.
-/

namespace Stockroom

/-- How a finite double is laid out. -/
structure Layout where
  /-- Which digits are taken when two decimals are equally near. -/
  tie : Tie
  /-- Exponents of the leading digit that are written positionally; none bounds nothing. -/
  positional : Option (Int × Int)
  /-- An integral value ends in `.0`. -/
  pointZero : Bool
  deriving Repr

namespace Layout

/-- Digits with the point behind the first `lead` of them, zeros filled in on either side. -/
def placePoint (pointZero : Bool) (digits : List Char) (lead : Int) : List Char :=
  if lead ≤ 0 then
    '0' :: '.' :: List.replicate (-lead).toNat '0' ++ digits
  else if digits.length ≤ lead.toNat then
    digits ++ List.replicate (lead.toNat - digits.length) '0' ++
      (if pointZero then ['.', '0'] else [])
  else digits.take lead.toNat ++ '.' :: digits.drop lead.toNat

/-- One digit, the others behind a point, and the exponent with its sign. -/
def scientific (digits : List Char) (exponent : Int) : List Char :=
  let mantissa :=
    match digits with
    | [] => []
    | [digit] => [digit]
    | digit :: rest => digit :: '.' :: rest
  let sign := if exponent < 0 then '-' else '+'
  mantissa ++ 'e' :: sign :: Nat.toDigits 10 exponent.natAbs

def decimal (layout : Layout) (d : Decimal) : List Char :=
  let digits := Nat.toDigits 10 d.digits
  let lead : Int := digits.length + d.exponent
  let isPositional :=
    match layout.positional with
    | none => true
    | some (least, below) => decide (least ≤ lead - 1 ∧ lead - 1 < below)
  if isPositional then placePoint layout.pointZero digits lead
  else scientific digits (lead - 1)

/-- The text of a finite double. -/
def finite (layout : Layout) (x : Double) : String :=
  let magnitude :=
    if x.units = 0 then (if layout.pointZero then ['0', '.', '0'] else ['0'])
    else layout.decimal (x.shortest layout.tie)
  String.ofList (if x.isNegative then '-' :: magnitude else magnitude)

end Layout

namespace Double

/-- A displayed value: positional throughout, ties go upward. -/
def displayLayout : Layout := ⟨.upward, none, false⟩

/-- A JSON number: positional from `0.00001` to below `10 ^ 16`, ties go to the even digit. -/
def jsonLayout : Layout := ⟨.toEven, some (-5, 16), true⟩

def display (x : Double) : String :=
  if x.isNaN then "NaN"
  else if !x.isFinite then (if x.isNegative then "-inf" else "inf")
  else displayLayout.finite x

end Double

end Stockroom
