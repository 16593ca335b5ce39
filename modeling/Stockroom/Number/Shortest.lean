import Stockroom.Number.Double

/-!
# The fewest digits that identify a double

A decimal identifies a double when it lies among the reals that round to it: up
to halfway to either neighbour, the two ends included exactly when the
significand is even.  The search walks the decimal grids from coarse to fine and
tests the two grid points around the value.  The first grid with a hit gives the
digits; of two hits the nearer one is taken, and an exact tie is decided by the
caller.
-/

namespace Stockroom

/-- The number `digits * 10 ^ exponent`. -/
structure Decimal where
  digits : Nat
  exponent : Int
  deriving DecidableEq, Repr

namespace Decimal

/-- Compares a decimal with `numerator / 2 ^ power`, exactly. -/
def compareDyadic (d : Decimal) (numerator power : Nat) : Ordering :=
  compare (d.digits * Nat.pow 10 d.exponent.toNat * Nat.pow 2 power)
    (numerator * Nat.pow 10 (-d.exponent).toNat)

/-- Moves trailing zeros of the digits into the exponent, at most `count` of them. -/
def strip : (count : Nat) → Decimal → Decimal
  | 0, d => d
  | count + 1, d =>
      if d.digits % 10 = 0 then strip count ⟨d.digits / 10, d.exponent + 1⟩ else d

end Decimal

/-- Which of two equally near decimals is taken. -/
inductive Tie where
  | toEven
  | upward
  deriving DecidableEq, Repr

namespace Double

/-- The decimal lies among the reals that round to the magnitude of `x`. -/
def identifiedBy (x : Double) (d : Decimal) : Bool :=
  let narrowBelow := x.fractionBits == 0 && x.exponentBits > 1
  let low := 4 * x.units - (if narrowBelow then x.gap else 2 * x.gap)
  let high := 4 * x.units + 2 * x.gap
  let closed := x.fractionBits % 2 == 0
  let atLow := d.compareDyadic low 1076
  let atHigh := d.compareDyadic high 1076
  (atLow == .gt || (closed && atLow == .eq)) &&
    (atHigh == .lt || (closed && atHigh == .eq))

/-- The least `k` with the magnitude below `10 ^ k`, for a magnitude above zero. -/
def scale (x : Double) : Int :=
  let estimate := ((x.units.log2 : Int) - 1074) * 30103 / 100000
  let fits := fun k => (Decimal.mk 1 k).compareDyadic x.units 1074 == .gt
  if fits estimate then estimate
  else if fits (estimate + 1) then estimate + 1
  else estimate + 2

/-- The grid point at or below the magnitude, on the grid of step `10 ^ exponent`. -/
def floorOn (x : Double) (exponent : Int) : Decimal :=
  ⟨x.units * Nat.pow 10 (-exponent).toNat / (Nat.pow 2 1074 * Nat.pow 10 exponent.toNat), exponent⟩

/-- The nearer of the grid points around the magnitude that identify it. -/
def hit? (x : Double) (tie : Tie) (exponent : Int) : Option Decimal :=
  let below := x.floorOn exponent
  let above : Decimal := ⟨below.digits + 1, exponent⟩
  match x.identifiedBy below, x.identifiedBy above with
  | true, true =>
      let middle : Decimal := ⟨2 * below.digits + 1, exponent⟩
      match middle.compareDyadic (2 * x.units) 1074, tie with
      | .gt, _ => some below
      | .lt, _ => some above
      | .eq, .upward => some above
      | .eq, .toEven => some (if below.digits % 2 = 0 then below else above)
  | true, false => some below
  | false, true => some above
  | false, false => none

/--
The digits of the magnitude of a finite double other than zero.  Seventeen
digits always identify a double, so the exact value at the end is never needed.
-/
def shortest (x : Double) (tie : Tie) : Decimal :=
  let k := x.scale
  let hits := (List.range 17).findSome? fun n => x.hit? tie (k - (n + 1 : Nat))
  (hits.getD ⟨x.units * Nat.pow 5 1074, -1074⟩).strip 800

end Double

end Stockroom
