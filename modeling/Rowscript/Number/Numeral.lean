import Rowscript.Text.Digit

/-!
# Numerals

A numeral is a sign, digits with an optional point, and an optional exponent. This
file reads the longest numeral at the beginning of a text, so that a number followed
by other text and a text that is a number and nothing else are told apart by what is
left over.
-/

namespace Rowscript

/-- A decimal numeral as it was written: its digits before and after the point, and
the sign and digits of its exponent. -/
structure Numeral where
  negative : Bool
  whole : Text
  fraction : Text
  exponent : Option (Bool × Text)
  deriving DecidableEq, Repr

namespace Numeral

/-- Reads an optional sign and says whether it was a minus. -/
def scanSign : Text → Bool × Text
  | '-' :: rest => (true, rest)
  | '+' :: rest => (false, rest)
  | rest => (false, rest)

/-- Reads the longest run of digits. -/
def scanDigits (t : Text) : Text × Text := t.span Text.isDigit

/-- Reads the digits around the point. At least one digit is needed; a point after
the first digits may stand without more. -/
def scanMantissa? (t : Text) : Option (Text × Text × Text) :=
  let (whole, rest) := scanDigits t
  match whole, rest with
  | [], '.' :: rest =>
    let (fraction, rest) := scanDigits rest
    if fraction = [] then none else some ([], fraction, rest)
  | [], _ => none
  | _, '.' :: rest =>
    let (fraction, rest) := scanDigits rest
    some (whole, fraction, rest)
  | _, rest => some (whole, [], rest)

/-- Reads an exponent: the letter, an optional sign and at least one digit. -/
def scanExponent? : Text → Option ((Bool × Text) × Text)
  | c :: rest =>
    if c = 'e' || c = 'E' then
      let (negative, rest) := scanSign rest
      let (digits, rest) := scanDigits rest
      if digits = [] then none else some ((negative, digits), rest)
    else none
  | [] => none

/-- Reads the longest numeral at the beginning of a text and gives what follows it.
Leading blanks are not skipped. -/
def scan? (t : Text) : Option (Numeral × Text) :=
  let (negative, rest) := scanSign t
  (scanMantissa? rest).map fun (whole, fraction, rest) =>
    match scanExponent? rest with
    | some (exponent, rest) => (⟨negative, whole, fraction, some exponent⟩, rest)
    | none => (⟨negative, whole, fraction, none⟩, rest)

/-- The numeral that a trimmed text is, when it is one and nothing else. -/
def ofText? (t : Text) : Option Numeral :=
  match scan? (Text.trim t) with
  | some (numeral, []) => some numeral
  | _ => none

/-- Whether a text is a numeral apart from the blanks around it. -/
def isNumeric (t : Text) : Bool := (ofText? t).isSome

/-- A comma is read as the decimal point when it is the only one and there is no point
already. -/
def normalizeDecimal (t : Text) : Text :=
  if t.count ',' = 1 && !t.contains '.' then t.map fun c => if c = ',' then '.' else c
  else t

/-- The digits of a numeral as one whole number. -/
def significand (n : Numeral) : Nat := Text.digitsValue (n.whole ++ n.fraction)

/-- The power of ten by which the significand is scaled. -/
def scale (n : Numeral) : Int :=
  let written : Int := match n.exponent with
    | none => 0
    | some (true, digits) => -(Text.digitsValue digits : Int)
    | some (false, digits) => Text.digitsValue digits
  written - n.fraction.length

end Numeral

end Rowscript
