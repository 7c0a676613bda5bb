import Rowscript.Number.Integer
import Rowscript.Number.Shortest

/-!
# Written form of floating-point numbers

Numbers between `10 ^ -4` and `10 ^ 16` are written positionally and always with a
point; the others are written with an exponent of at least two digits and its sign.
-/

namespace Rowscript.Binary64

/-- The digits without trailing zeros. -/
def significantDigits (digits : Nat) : Text :=
  ((Nat.toDigits 10 digits).reverse.dropWhile (· = '0')).reverse

/-- The place of the decimal point, counted from before the first digit. -/
def pointPlace (d : Decimal) : Int := (Nat.toDigits 10 d.digits).length + d.scale

/-- Positional notation, with a digit on both sides of the point. -/
def positional (digits : Text) (point : Int) : Text :=
  if point ≤ 0 then ['0', '.'] ++ List.replicate (-point).toNat '0' ++ digits
  else
    let place := point.toNat
    let whole := digits.take place ++ List.replicate (place - digits.length) '0'
    let fraction := digits.drop place
    whole ++ ['.'] ++ (if fraction = [] then ['0'] else fraction)

/-- Exponent notation: one digit, the others after a point, the exponent's sign and at
least two digits of it. -/
def scientific (digits : Text) (exponent : Int) : Text :=
  let mantissa := match digits with
    | first :: second :: rest => first :: '.' :: second :: rest
    | short => short
  let sign := if exponent < 0 then '-' else '+'
  let written := Number.renderNat exponent.natAbs
  mantissa ++ ['e', sign] ++ List.replicate (2 - written.length) '0' ++ written

/-- The written form of a positive decimal. -/
def renderDecimal (d : Decimal) : Text :=
  let digits := significantDigits d.digits
  let point := pointPlace d
  if -4 < point ∧ point ≤ 16 then positional digits point else scientific digits (point - 1)

/-- The written form of a number: the shortest digits that read back. -/
def render : Binary64 → Text
  | nan => "nan".toList
  | infinite negative => if negative then "-inf".toList else "inf".toList
  | finite negative units =>
    let magnitude := if units = 0 then "0.0".toList else renderDecimal (shortestDecimal units)
    if negative then '-' :: magnitude else magnitude

/-- Reads a number as it may be written: a numeral with blanks around it, or the name of
an infinity or of the NaN, in either case and with a sign. -/
def ofText? (t : Text) : Option Binary64 :=
  match Numeral.ofText? t with
  | some numeral => some (ofNumeral numeral)
  | none =>
    let (negative, name) := Numeral.scanSign (Text.lowerAscii (Text.trim t))
    if name = "nan".toList then some nan
    else if name = "inf".toList || name = "infinity".toList then some (infinite negative)
    else none

end Rowscript.Binary64
