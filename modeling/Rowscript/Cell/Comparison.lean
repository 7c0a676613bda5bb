import Rowscript.Cell.Basic

/-!
# Comparing cell values

Equality is loose: values of one kind are compared as they are, and a number or truth
value compared with something else turns the other side into a number. The four order
comparisons always compare numbers, each read from the beginning of its value's text.
-/

namespace Rowscript

/-- The one way in which a value may fail to be a floating-point number. -/
inductive NumberError where
  | tooLarge
  deriving DecidableEq, Repr

/-- The text reported for a value that is no floating-point number. -/
def NumberError.message : NumberError → Text
  | .tooLarge => "int too large to convert to float".toList

namespace Cell

/-- An integer as a floating-point number, unless it is beyond the finite ones. -/
def integerToNumber (n : Int) : Except NumberError Binary64 :=
  match Binary64.ofInt? n with
  | some x => .ok x
  | none => .error .tooLarge

/-- The number at the beginning of a trimmed text; what follows it is ignored. Without
one, the word for infinity is read in either case and with any signs before it. -/
def leadingNumberOfText (t : Text) : Binary64 :=
  match Numeral.scan? t with
  | some (numeral, _) => Binary64.ofNumeral numeral
  | none =>
    let word := t.dropWhile fun c => c = '+' || c = '-'
    if Text.startsWith "infinity".toList (Text.lowerAscii word) then
      .infinite (t.head? = some '-')
    else .nan

/-- The number by which a value is ordered. A truth value has none. -/
def leadingNumber : Cell → Except NumberError Binary64
  | missing => .ok .nan
  | bool _ => .ok .nan
  | text value => .ok (leadingNumberOfText (Numeral.normalizeDecimal (Text.trim value)))
  | integer value => integerToNumber value
  | number value => .ok value

/-- The number that a value stands for as a whole: nothing counts as zero, and a text that
is not a numeral counts as a NaN. -/
def toNumber : Cell → Except NumberError Binary64
  | missing => .ok (.ofBool false)
  | bool value => .ok (.ofBool value)
  | text value =>
    if Text.trim value = [] then .ok (.ofBool false)
    else match Numeral.ofText? value with
      | some numeral => .ok (.ofNumeral numeral)
      | none => .ok .nan
  | integer value => integerToNumber value
  | number value => .ok value

/-- Numbers and truth values draw the value they are compared with to a number. -/
def comparesAsNumber : Cell → Bool
  | bool _ => true
  | value => value.isNumeric

/-- Loose equality. -/
def looselyEqual (left right : Cell) : Except NumberError Bool :=
  match left, right with
  | bool b, bool c => .ok (b = c)
  | _, _ =>
    if left.comparesAsNumber || right.comparesAsNumber then do
      let x ← left.toNumber
      let y ← right.toNumber
      return x.equal y
    else .ok (left.plainOrEmpty = right.plainOrEmpty)

end Cell

/-- The six comparison operators. -/
inductive Operator where
  | equal
  | notEqual
  | atLeast
  | atMost
  | greater
  | less
  deriving DecidableEq, Repr

namespace Operator

/-- All operators, in the order in which their symbols are tried at the beginning of a
text, so that a symbol of two characters comes before its first character. -/
def all : List Operator := [equal, notEqual, atLeast, atMost, greater, less]

/-- The symbol of an operator in the rule language. -/
def symbol : Operator → Text
  | equal => "==".toList
  | notEqual => "!=".toList
  | atLeast => ">=".toList
  | atMost => "<=".toList
  | greater => ">".toList
  | less => "<".toList

/-- The operator with a given symbol. -/
def ofSymbol? (symbol : Text) : Option Operator := all.find? fun op => op.symbol = symbol

/-- Compares the leading numbers of two values. -/
def ordered (relation : Binary64 → Binary64 → Bool) (left right : Cell) :
    Except NumberError Bool := do
  let x ← left.leadingNumber
  let y ← right.leadingNumber
  return relation x y

/-- Whether two values stand in the relation of an operator. -/
def holds (op : Operator) (left right : Cell) : Except NumberError Bool :=
  match op with
  | equal => left.looselyEqual right
  | notEqual => (left.looselyEqual right).map not
  | atLeast => ordered (fun x y => y.atMost x) left right
  | atMost => ordered Binary64.atMost left right
  | greater => ordered (fun x y => y.less x) left right
  | less => ordered Binary64.less left right

end Operator

end Rowscript
