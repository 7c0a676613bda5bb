import Rowscript.Text.Digit

/-!
# Whole numbers as text

Whole numbers are written in plain ASCII digits. They are read more generously: in
the digits of any script, with a sign, with blanks around them and with single
underscores between digits.
-/

namespace Rowscript.Number

/-- The decimal text of a natural number, in ASCII digits and without leading
zeros. -/
def renderNat (n : Nat) : Text := Nat.toDigits 10 n

/-- The decimal text of an integer: a minus sign for the negative ones, then the
digits of its magnitude. -/
def renderInt : Int → Text
  | .ofNat n => renderNat n
  | .negSucc n => '-' :: renderNat (n + 1)

/-- The most digits that a whole number may be written with. -/
def digitLimit : Nat := 4300

/-- Why a text is not read as a whole number. -/
inductive IntegerError where
  /-- The text is not written as a whole number. -/
  | malformed
  /-- There are more digits than the limit allows. -/
  | tooManyDigits (digits : Nat)
  deriving DecidableEq, Repr

/-- The text of an error about too many digits. -/
def tooManyDigitsText (digits : Nat) : Text :=
  "Exceeds the limit (".toList ++ renderNat digitLimit ++
    " digits) for integer string conversion: value has ".toList ++ renderNat digits ++
    " digits; use sys.set_int_max_str_digits() to increase the limit".toList

/-- Digits at the beginning of a text, among which single underscores may stand between two
digits: their value, how many there are, and the rest of the text. `afterDigit` says whether
the character before was a digit; without a digit, or with an underscore out of place, there
is nothing to read. -/
def scanGroupedDigits? (afterDigit : Bool) (value count : Nat) :
    Text → Option (Nat × Nat × Text)
  | [] => if afterDigit then some (value, count, []) else none
  | c :: rest =>
    match Text.digitValue? c with
    | some digit => scanGroupedDigits? true (10 * value + digit) (count + 1) rest
    | none =>
      if !afterDigit then none
      else if c = '_' then scanGroupedDigits? false value count rest
      else some (value, count, c :: rest)

/-- The blanks that may stand around a whole number: all but the information
separators. -/
def isMargin (c : Char) : Bool := Text.isBlank c && !Text.inRanges [(0x1C, 0x1F)] c

/-- Reads the digits of a whole number and the margin after them. Too many digits are an error
even if something else follows them. -/
def readMagnitude (t : Text) : Except IntegerError Nat :=
  match scanGroupedDigits? false 0 0 t with
  | none => .error .malformed
  | some (value, count, rest) =>
    if digitLimit < count then .error (.tooManyDigits count)
    else if rest.all isMargin then .ok value
    else .error .malformed

/-- Reads a whole number: margins around it, a sign and underscores between its digits
are allowed. -/
def readInt (t : Text) : Except IntegerError Int :=
  match t.dropWhile isMargin with
  | '-' :: rest => (readMagnitude rest).map fun n => -(n : Int)
  | '+' :: rest => (readMagnitude rest).map Int.ofNat
  | rest => (readMagnitude rest).map Int.ofNat

/-- The whole number that a text is, if it is one. -/
def readInt? (t : Text) : Option Int := (readInt t).toOption

end Rowscript.Number
