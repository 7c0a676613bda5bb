import Rowscript.Number.Integer
import Rowscript.Text.UpperCase

/-!
# Addresses in a sheet

A cell is addressed by the letters of its column and the number of its row. Column letters
count in base twenty-six without a zero: after `Z` comes `AA`. A range is a quoted sheet
name, perhaps with a cell.
-/

namespace Rowscript

namespace Column

/-- The index of a column from its letters, counted from zero. Characters that are not
letters count by their distance from the letter before `A`. -/
def toIndex (letters : Text) : Int :=
  (Text.upper letters).foldl
    (fun (index : Int) c => index * 26 + ((c.toNat : Int) - ('A'.toNat : Int) + 1)) 0 - 1

/-- The letters of a positive column number, counted from one, before the given ones. -/
def lettersBefore (number : Nat) (after : Text) : Text :=
  match number with
  | 0 => after
  | n + 1 => lettersBefore (n / 26) (Char.ofNat ('A'.toNat + n % 26) :: after)
termination_by number
decreasing_by omega

/-- The letters of a column index counted from zero; a negative index has none. -/
def ofIndex (index : Int) : Text := lettersBefore (index + 1).toNat []

end Column

/-- Why a text is not read as the address of a cell. -/
inductive AddressError where
  /-- It is not written as an address. -/
  | malformed (cell : Text)
  /-- The number of its row has too many digits. -/
  | rowTooLong (digits : Nat)
  deriving DecidableEq, Repr

/-- The text of an error in an address. -/
def AddressError.message : AddressError → Text
  | .malformed cell => "Invalid cell notation: ".toList ++ cell
  | .rowTooLong digits => Number.tooManyDigitsText digits

/-- A text without one dollar sign at its beginning. -/
def dropDollar : Text → Text
  | '$' :: rest => rest
  | t => t

/-- The letters and the digits of the address of a cell, with dollar signs before either and
blanks around both ignored. -/
def splitAddress? (cell : Text) : Option (Text × Text) :=
  let (letters, rest) := (dropDollar (Text.trim cell)).span Char.isAlpha
  let digits := dropDollar rest
  if letters ≠ [] && digits ≠ [] && digits.all Text.isDigit then some (letters, digits) else none

/-- Reads the address of a cell. The column comes out in upper case. -/
def readAddress (cell : Text) : Except AddressError (Text × Nat) :=
  match splitAddress? cell with
  | none => .error (.malformed cell)
  | some (letters, digits) =>
    if Number.digitLimit < digits.length then .error (.rowTooLong digits.length)
    else .ok (Text.upper letters, Text.digitsValue digits)

/-- The address of a cell of a column, given by its index, and a row. -/
def cellAddress (column : Nat) (row : Nat) : Text :=
  Column.ofIndex column ++ Number.renderNat row

/-- The range of some cells of a sheet, or of the whole sheet if no cells are given. Quotes
in the sheet name are written twice. -/
def sheetRange (sheet cells : Text) : Text :=
  let name := '\'' :: Text.double '\'' sheet ++ ['\'']
  if cells = [] then name else name ++ '!' :: cells

end Rowscript
