import Rowscript.Number.Numeral

/-!
# Binary floating-point numbers

The numbers of a spreadsheet have 53 significant bits. Every finite one is a whole
number of units of `2 ^ -1074`, so this file keeps that whole number and does all
arithmetic exactly: reading rounds once, to the nearest representable number, and
comparing never rounds.
-/

namespace Rowscript

/-- A binary floating-point number. A finite one is a sign and a count of units of
`2 ^ -1074`; zero keeps its sign. -/
inductive Binary64 where
  | nan
  | infinite (negative : Bool)
  | finite (negative : Bool) (units : Nat)
  deriving DecidableEq, Repr

namespace Binary64

/-- One is this many units. -/
def unitsPerOne : Nat := Nat.pow 2 1074

/-- The least count of units that is too large for a finite number. -/
def unitsLimit : Nat := Nat.pow 2 2098

/-- The number of binary digits. -/
def bitLength (n : Nat) : Nat := if n = 0 then 0 else n.log2 + 1

/-- The exponent of the grid on which representable numbers near `units` lie: they are
the multiples of two to this power. -/
def gridExponent (units : Nat) : Nat := bitLength units - 53

/-- Division to the nearest whole number; a half goes to the even one. -/
def divideToEven (numerator denominator : Nat) : Nat :=
  let quotient := numerator / denominator
  let twice := 2 * (numerator % denominator)
  if twice < denominator || (twice = denominator && quotient % 2 = 0) then quotient
  else quotient + 1

/-- The representable count of units nearest to a ratio of units. -/
def roundUnits (numerator denominator : Nat) : Nat :=
  let grid := Nat.pow 2 (gridExponent (numerator / denominator))
  divideToEven numerator (denominator * grid) * grid

/-- The number nearest to a ratio; it is infinite when the rounded value has no finite
representation. -/
def ofRatio (negative : Bool) (numerator denominator : Nat) : Binary64 :=
  let units := roundUnits (numerator * unitsPerOne) denominator
  if units < unitsLimit then finite negative units else infinite negative

/-- The number nearest to `significand * 10 ^ scale`. Scales beyond the range of all
representable numbers are decided by the count of digits, without computing the
power. -/
def ofDecimal (negative : Bool) (significand : Nat) (scale : Int) : Binary64 :=
  let digits : Int := (Nat.toDigits 10 significand).length
  if significand = 0 then finite negative 0
  else if 310 < digits + scale then infinite negative
  else if digits + scale < -330 then finite negative 0
  else if 0 ≤ scale then ofRatio negative (significand * Nat.pow 10 scale.toNat) 1
  else ofRatio negative significand (Nat.pow 10 (-scale).toNat)

/-- The number nearest to a numeral. -/
def ofNumeral (n : Numeral) : Binary64 := ofDecimal n.negative n.significand n.scale

/-- The number nearest to an integer, if that is finite. -/
def ofInt? (n : Int) : Option Binary64 :=
  match ofRatio (n < 0) n.natAbs 1 with
  | infinite _ => none
  | x => some x

/-- One and zero stand for the two truth values. -/
def ofBool (b : Bool) : Binary64 := finite false (if b then unitsPerOne else 0)

/-- The place of a number on the number line, in units; the infinities lie just beyond
all finite numbers, and a NaN has no place. -/
def position? : Binary64 → Option Int
  | nan => none
  | infinite negative => if negative then some (-(unitsLimit : Int)) else some unitsLimit
  | finite negative units => if negative then some (-(units : Int)) else some units

/-- Compares the places of two numbers; nothing holds of a NaN. -/
def compareWith (relation : Int → Int → Bool) (x y : Binary64) : Bool :=
  match x.position?, y.position? with
  | some i, some j => relation i j
  | _, _ => false

/-- Numerical equality: the two zeros are equal and a NaN equals nothing. -/
def equal (x y : Binary64) : Bool := compareWith (fun i j => i = j) x y

/-- Numerical order. -/
def less (x y : Binary64) : Bool := compareWith (fun i j => i < j) x y

/-- Numerical order or equality. -/
def atMost (x y : Binary64) : Bool := compareWith (fun i j => i ≤ j) x y

/-- The integer that a number is, if it is one. -/
def toInt? : Binary64 → Option Int
  | finite negative units =>
    if units % unitsPerOne = 0 then
      some (if negative then -((units / unitsPerOne : Nat) : Int) else (units / unitsPerOne : Nat))
    else none
  | _ => none

end Binary64

end Rowscript
