import Rowscript.Number.Binary64

/-!
# The shortest decimal that reads back

A number is shown with the fewest decimal digits that still read back as the same
number, and among those with the digits nearest to it. The search tries one digit,
two digits and so on up to seventeen, which always suffice; on each decimal grid only
the two neighbours of the number can be the answer.
-/

namespace Rowscript.Binary64

/-- A positive decimal `digits * 10 ^ scale`. -/
structure Decimal where
  digits : Nat
  scale : Int
  deriving DecidableEq, Repr

/-- The greatest exponent of a power of ten that does not exceed a positive count of
units. -/
def decimalExponent (units : Nat) : Int :=
  if unitsPerOne ≤ units then ((Nat.toDigits 10 (units / unitsPerOne)).length : Int) - 1
  else -((Nat.toDigits 10 ((unitsPerOne - 1) / units)).length : Int)

/-- The interval of reals that round to a representable count of units, in quarters of a
unit, and whether its ends belong to it. Below a power of two the grid is twice as
fine, so the lower half-gap is half as wide there. -/
def roundingInterval (units : Nat) : Nat × Nat × Bool :=
  let grid := Nat.pow 2 (gridExponent units)
  let mantissa := units / grid
  let below := if mantissa = Nat.pow 2 52 && 1 < grid then grid else 2 * grid
  (4 * units - below, 4 * units + 2 * grid, mantissa % 2 = 0)

/-- The decimal of a given number of digits nearest to a count of units, if one of that
length reads back. Of two equally near ones the even one is taken. -/
def nearestDecimal? (units length : Nat) : Option Decimal :=
  let scale := decimalExponent units + 1 - length
  let step := 4 * unitsPerOne * Nat.pow 10 scale.toNat
  let factor := Nat.pow 10 (-scale).toNat
  let (low, high, closed) := roundingInterval units
  let value := 4 * units * factor
  let lower := value / step
  let readsBack := fun digits : Nat =>
    if closed then low * factor ≤ digits * step && digits * step ≤ high * factor
    else low * factor < digits * step && digits * step < high * factor
  let twice := 2 * (value % step)
  let lowerIsNearer := twice < step || (twice = step && lower % 2 = 0)
  if readsBack lower && (lowerIsNearer || !readsBack (lower + 1)) then some ⟨lower, scale⟩
  else if readsBack (lower + 1) then some ⟨lower + 1, scale⟩
  else none

/-- The shortest decimal that reads back as a positive count of units. -/
def shortestDecimal (units : Nat) : Decimal :=
  ((List.range' 1 17).findSome? (nearestDecimal? units)).getD ⟨units, -1074⟩

end Rowscript.Binary64
