/-!
# Double-precision numbers

A double is held by its 64 bits, so that every not-a-number keeps its payload
and the two zeros stay apart.  The finite magnitudes are whole multiples of the
least positive one, `2 ^ (-1074)`; with them the comparison of a double with a
decimal is arithmetic on natural numbers.
-/

namespace Stockroom

structure Double where
  bits : UInt64
  deriving DecidableEq, Repr

namespace Double

def ofFloat (x : Float) : Double := ⟨x.toBits⟩

def isNegative (x : Double) : Bool := x.bits >>> 63 == 1

def exponentBits (x : Double) : Nat := ((x.bits >>> 52) &&& 0x7FF).toNat

def fractionBits (x : Double) : Nat := (x.bits &&& 0xFFFFFFFFFFFFF).toNat

def isFinite (x : Double) : Bool := x.exponentBits != 0x7FF

def isNaN (x : Double) : Bool := !x.isFinite && x.fractionBits != 0

/-- The magnitude of a finite double, counted in units of `2 ^ (-1074)`. -/
def units (x : Double) : Nat :=
  if x.exponentBits = 0 then x.fractionBits
  else (Nat.pow 2 52 + x.fractionBits) * Nat.pow 2 (x.exponentBits - 1)

/-- The distance, in units, from the magnitude to the next larger one. -/
def gap (x : Double) : Nat := Nat.pow 2 (x.exponentBits - 1)

/-- Numeric equality: the two zeros are equal and a not-a-number equals nothing. -/
def numEq (x y : Double) : Bool :=
  !x.isNaN && !y.isNaN &&
    (x.bits == y.bits || (x.isFinite && x.units == 0 && y.isFinite && y.units == 0))

end Double

end Stockroom
