import Rowscript.Cell.Basic

/-!
# Cell values as formula literals

A value that is put into a formula has to be one complete literal of the formula
language: an empty string, a date, a truth value, a number or a quoted string.
-/

namespace Rowscript.Cell

/-- Reads a day, a month and a year in digits, separated by slashes or dashes: one or two
digits for the day and the month, four for the year, and nothing else. -/
def dayMonthYear? (t : Text) : Option (Nat × Nat × Nat) :=
  let isSeparator := fun c : Char => c = '/' || c = '-'
  let (day, rest) := Numeral.scanDigits t
  match rest with
  | first :: rest =>
    let (month, rest) := Numeral.scanDigits rest
    match rest with
    | second :: rest =>
      let (year, rest) := Numeral.scanDigits rest
      if isSeparator first && isSeparator second && (day.length = 1 || day.length = 2) &&
          (month.length = 1 || month.length = 2) && year.length = 4 && rest = [] then
        some (Text.digitsValue day, Text.digitsValue month, Text.digitsValue year)
      else none
    | [] => none
  | [] => none

/-- The formula that makes a date of its parts. -/
def dateFormula (year month day : Nat) : Text :=
  "DATE(".toList ++ Number.renderNat year ++ [','] ++ Number.renderNat month ++ [','] ++
    Number.renderNat day ++ [')']

/-- A string literal: quotes around the text, and every quote inside written twice. -/
def stringLiteral (t : Text) : Text := '"' :: Text.double '"' t ++ ['"']

/-- A text without one percent sign at its end. -/
def dropPercent (t : Text) : Text := if t.getLast? = some '%' then t.dropLast else t

/-- The literal of a text that is not a date: a number as it stands, with its decimal comma
turned into a point and perhaps a percent sign, and anything else as a string. -/
def numberOrString (t : Text) : Text :=
  let normalized := Numeral.normalizeDecimal t
  if Numeral.isNumeric (dropPercent normalized) then normalized else stringLiteral t

/-- The literal that stands for a value in a formula. -/
def formulaLiteral (value : Cell) : Text :=
  let shown := Text.trim value.display
  if shown = [] then ['"', '"']
  else match dayMonthYear? shown with
    | some (day, month, year) => dateFormula year month day
    | none =>
      match value with
      | bool _ => shown
      | _ => numberOrString shown

end Rowscript.Cell
