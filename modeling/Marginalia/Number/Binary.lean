/-!
# Binary numbers

A finite double is an integer times a power of two, and its bits say which.  From the bits come the
order of doubles as an order of integers, and the nearest double to an exact quotient.
-/

namespace Marginalia

namespace Number

/-- The size of a finite double: `mantissa * 2 ^ exponent`. -/
structure Binary where
  /-- Integer factor. -/
  mantissa : Nat
  /-- Power of two. -/
  exponent : Int
  /-- The double just below is half as far away as the one just above. -/
  narrowBelow : Bool

namespace Binary

/-- Split the bits of a finite double. -/
def ofBits (bits : UInt64) : Binary :=
  let exponent := ((bits >>> 52) &&& 0x7FF).toNat
  let fraction := (bits &&& 0xFFFFFFFFFFFFF).toNat
  if exponent = 0 then ⟨fraction, -1074, false⟩
  else ⟨Nat.pow 2 52 + fraction, (exponent : Int) - 1075, fraction = 0 && 1 < exponent⟩

end Binary

/-- The sign bit of a double. -/
def isNegative (value : Float) : Bool :=
  value.toBits >>> 63 = 1

/-- Whether a double is one of the two infinities. -/
def isInfinite (value : Float) : Bool :=
  value.toBits &&& 0x7FFFFFFFFFFFFFFF = 0x7FF0000000000000

/-- The place of a double in the order of its kind.  Both zeros have the place zero, and what is
not a number has none. -/
def rank? (value : Float) : Option Int :=
  if value.isNaN then none
  else
    let size : Int := (value.toBits &&& 0x7FFFFFFFFFFFFFFF).toNat
    some (if isNegative value then -size else size)

/-- At most, in the order of places; never true of what is not a number. -/
def atMost (left right : Float) : Bool :=
  match rank? left, rank? right with
  | some low, some high => low ≤ high
  | _, _ => false

/-- Below, in the order of places; never true of what is not a number. -/
def below (left right : Float) : Bool :=
  match rank? left, rank? right with
  | some low, some high => low < high
  | _, _ => false

/-- The double nearest to `mantissa * 2 ^ exponent`. -/
def nearestScaled (mantissa : Nat) (exponent : Int) : Float :=
  if exponent < 0 then
    Float.ofScientific (mantissa * Nat.pow 5 exponent.natAbs) true exponent.natAbs
  else Float.ofScientific (mantissa * Nat.pow 2 exponent.natAbs) false 0

/-- The double nearest to a quotient.  The quotient is cut after at least sixty-five binary digits,
and one more digit records whether anything was cut off, so the second rounding sees every tie as
the exact quotient would. -/
def nearestQuotient (numerator denominator : Nat) : Float :=
  let shift : Int := (66 : Int) + denominator.log2 - numerator.log2
  let scaledNumerator := numerator * Nat.pow 2 shift.toNat
  let scaledDenominator := denominator * Nat.pow 2 (-shift).toNat
  let cut := scaledNumerator / scaledDenominator
  let sticky := if scaledNumerator % scaledDenominator = 0 then 0 else 1
  nearestScaled (2 * cut + sticky) (-(shift + 1))

/-- The integer left when the fraction of a finite double is dropped. -/
def truncate (value : Float) : Int :=
  let binary := Binary.ofBits value.toBits
  let size : Nat :=
    binary.mantissa * Nat.pow 2 binary.exponent.toNat / Nat.pow 2 (-binary.exponent).toNat
  if isNegative value then -(size : Int) else size

/-- The double nearest to an integer; infinite when the integer is too large. -/
def ofInteger (value : Int) : Float :=
  if value < 0 then -Float.ofScientific value.natAbs false 0
  else Float.ofScientific value.natAbs false 0

end Number

end Marginalia
