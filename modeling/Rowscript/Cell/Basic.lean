import Rowscript.Number.Notation

/-!
# Cell values

A cell of a spreadsheet, and every value that a rule computes, is missing, a truth
value, a text, a whole number or a floating-point number. A value has two written
forms: the one that a sheet displays and the plain one by which tables are read.
-/

namespace Rowscript

/-- A cell value. -/
inductive Cell where
  | missing
  | bool (value : Bool)
  | text (value : Text)
  | integer (value : Int)
  | number (value : Binary64)
  deriving DecidableEq, Repr

/-- A rectangle of cells, row by row; rows may differ in length. -/
abbrev Grid := List (List Cell)

namespace Cell

/-- The text that a sheet displays for a value: nothing for a missing one, truth values in
capitals, and no decimal point for a floating-point number that is an integer. The limit on
the digits of whole numbers is set aside: it counts when they are read, and here they are
written however long they are. -/
def display : Cell → Text
  | missing => []
  | bool value => if value then "TRUE".toList else "FALSE".toList
  | text value => value
  | integer value => Number.renderInt value
  | number value =>
    match value.toInt? with
    | some n => Number.renderInt n
    | none => value.render

/-- The plain text of a value, which keeps the different kinds of value apart. As in `display`
the limit on the digits of whole numbers is set aside. -/
def plain : Cell → Text
  | missing => "None".toList
  | bool value => if value then "True".toList else "False".toList
  | text value => value
  | integer value => Number.renderInt value
  | number value => value.render

/-- The plain text of a value, where a missing one counts as empty. -/
def plainOrEmpty : Cell → Text
  | missing => []
  | value => value.plain

/-- A computed value passes as true when it is the truth value or the word, in either
case and with blanks around it. -/
def isTrue : Cell → Bool
  | bool value => value
  | text value => Text.lowerAscii (Text.trim value) = "true".toList
  | _ => false

/-- Whether a value is a number of either kind; truth values are not. -/
def isNumeric : Cell → Bool
  | integer _ => true
  | number _ => true
  | _ => false

end Cell

end Rowscript
