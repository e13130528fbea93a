import Marginalia.Number.Binary
import Marginalia.Text.Basic

/-!
# Shortest decimals

A double is shown with the fewest digits that read back to it; of two such decimals the nearer one
is taken, and a tie goes to the even digit.  All comparisons are exact comparisons of naturals.
-/

namespace Marginalia

namespace Number

/-- A decimal, `digits * 10 ^ exponent`. -/
structure Decimal where
  /-- Integer factor. -/
  digits : Nat
  /-- Power of ten. -/
  exponent : Int
deriving DecidableEq, Repr

/-- Compare `left * 10 ^ decimal` with `right * 2 ^ binary`. -/
def compareScaled (left : Nat) (decimal : Int) (right : Nat) (binary : Int) : Ordering :=
  compare (left * Nat.pow 10 decimal.toNat * Nat.pow 2 (-binary).toNat)
    (right * Nat.pow 2 binary.toNat * Nat.pow 10 (-decimal).toNat)

namespace Binary

/-- Whether a decimal lies among the reals that round to the number.  The ends of that interval are
the midpoints to both neighbours, and belong to it when the mantissa is even. -/
def readsBack (binary : Binary) (decimal : Decimal) : Bool :=
  let low := if binary.narrowBelow then 4 * binary.mantissa - 1 else 4 * binary.mantissa - 2
  let high := 4 * binary.mantissa + 2
  let closed := binary.mantissa % 2 = 0
  let fromLow := compareScaled decimal.digits decimal.exponent low (binary.exponent - 2)
  let fromHigh := compareScaled decimal.digits decimal.exponent high (binary.exponent - 2)
  (fromLow = .gt || (closed && fromLow = .eq)) && (fromHigh = .lt || (closed && fromHigh = .eq))

/-- The power of ten just above the number, found from an estimate by single steps. -/
def scaleFrom (binary : Binary) : Nat → Int → Int
  | 0, scale => scale
  | steps + 1, scale =>
      if compareScaled 1 scale binary.mantissa binary.exponent = .gt then
        if compareScaled 1 (scale - 1) binary.mantissa binary.exponent = .gt then
          scaleFrom binary steps (scale - 1)
        else scale
      else scaleFrom binary steps (scale + 1)

/-- The least power of ten above the number. -/
def scale (binary : Binary) : Int :=
  scaleFrom binary 8 ((((binary.mantissa.log2 : Int) + binary.exponent) * 30103) / 100000 + 1)

/-- The number divided by a power of ten, rounded down. -/
def floorAt (binary : Binary) (exponent : Int) : Nat :=
  binary.mantissa * Nat.pow 2 binary.exponent.toNat * Nat.pow 10 (-exponent).toNat /
    (Nat.pow 2 (-binary.exponent).toNat * Nat.pow 10 exponent.toNat)

/-- Among the decimals with the given last place, the one that reads back, if there is one. -/
def onGrid? (binary : Binary) (exponent : Int) : Option Decimal :=
  let low : Decimal := ⟨binary.floorAt exponent, exponent⟩
  let high : Decimal := ⟨low.digits + 1, exponent⟩
  match binary.readsBack low, binary.readsBack high with
  | true, false => some low
  | false, true => some high
  | false, false => none
  | true, true =>
      match compareScaled (2 * low.digits + 1) exponent (2 * binary.mantissa) binary.exponent with
      | .gt => some low
      | .lt => some high
      | .eq => some (if low.digits % 2 = 0 then low else high)

/-- The shortest decimal that reads back to a positive number. -/
def shortest (binary : Binary) : Decimal :=
  let scale := binary.scale
  ((List.range 17).findSome? fun (places : Nat) => binary.onGrid? (scale - 1 - (places : Int))).getD
    ⟨binary.mantissa * Nat.pow 2 binary.exponent.toNat * Nat.pow 5 (-binary.exponent).toNat,
      min binary.exponent 0⟩

end Binary

/-- Move trailing zeros of the digits into the exponent. -/
def Decimal.stripZeros (decimal : Decimal) : Nat → Decimal
  | 0 => decimal
  | steps + 1 =>
      if decimal.digits % 10 = 0 && decimal.digits ≠ 0 then
        Decimal.stripZeros ⟨decimal.digits / 10, decimal.exponent + 1⟩ steps
      else decimal

/-- How decimals are laid out. -/
structure Layout where
  /-- Least exponent of the leading digit that is written positionally. -/
  plainFrom : Int
  /-- First exponent of the leading digit that no longer is. -/
  plainBelow : Int
  /-- Least number of digits of a written exponent. -/
  exponentWidth : Nat

/-- Numbers are written positionally from a ten-thousandth up to below ten to the sixteenth, and
otherwise with a signed exponent of at least two digits. -/
def plainLayout : Layout where
  plainFrom := -4
  plainBelow := 16
  exponentWidth := 2

/-- Lay a non-zero decimal out. -/
def Layout.write (layout : Layout) (decimal : Decimal) : Text :=
  let digits := Nat.toDigits 10 decimal.digits
  let lead : Int := decimal.exponent + digits.length - 1
  if layout.plainFrom ≤ lead && lead < layout.plainBelow then
    if 0 ≤ decimal.exponent then
      digits ++ List.replicate decimal.exponent.toNat '0' ++ ['.', '0']
    else if 0 ≤ lead then
      digits.take (lead.toNat + 1) ++ ['.'] ++ digits.drop (lead.toNat + 1)
    else '0' :: '.' :: List.replicate (-lead - 1).toNat '0' ++ digits
  else
    let mantissa := match digits with
      | first :: next :: rest => first :: '.' :: next :: rest
      | short => short
    mantissa ++ ['e', if lead < 0 then '-' else '+'] ++
      Text.padLeft layout.exponentWidth '0' (Nat.toDigits 10 lead.natAbs)

/-- The shown form of a double. -/
def text (value : Float) : Text :=
  if value.isNaN then ['n', 'a', 'n']
  else
    let binary := Binary.ofBits value.toBits
    let size :=
      if isInfinite value then ['i', 'n', 'f']
      else if binary.mantissa = 0 then ['0', '.', '0']
      else plainLayout.write (binary.shortest.stripZeros 20)
    if isNegative value then '-' :: size else size

/-- Round a quotient to the nearest integer, a half to the even neighbour. -/
def roundQuotient (numerator denominator : Nat) : Nat :=
  let quotient := numerator / denominator
  let rest := 2 * (numerator % denominator)
  if rest < denominator then quotient
  else if denominator < rest then quotient + 1
  else if quotient % 2 = 0 then quotient else quotient + 1

/-- A double with a fixed number of decimal places, rounded from its exact value. -/
def fixed (places : Nat) (value : Float) : Text :=
  if value.isNaN then ['n', 'a', 'n']
  else
    let binary := Binary.ofBits value.toBits
    let size :=
      if isInfinite value then ['i', 'n', 'f']
      else
        let units :=
          roundQuotient (binary.mantissa * Nat.pow 2 binary.exponent.toNat * Nat.pow 10 places)
            (Nat.pow 2 (-binary.exponent).toNat)
        let digits := Text.padLeft (places + 1) '0' (Nat.toDigits 10 units)
        digits.take (digits.length - places) ++ ['.'] ++ digits.drop (digits.length - places)
    if isNegative value then '-' :: size else size

end Number

end Marginalia
