import Rowscript.Number.Integer
import Rowscript.Text.Quoted

/-!
# Descriptions of options

The description of an option may contain directives: a percent sign, perhaps the name of a
property of the option in parentheses, flags, a width, a precision, a length letter and a
letter that says how the property is shown. A directive without a name shows all properties
together, which is possible once. Two percent signs stand for one. Help can be printed only
if every directive of a description can be followed.
-/

namespace Rowscript.CommandLine

/-- What a directive shows. -/
inductive Property where
  | text
  | truth
  | absent
  | list
  | group
  /-- All properties together. -/
  | all
  deriving DecidableEq, Repr

namespace Property

/-- The name of the kind of a property. -/
def kindName : Property → Text
  | text => "str".toList
  | truth => "bool".toList
  | absent => "NoneType".toList
  | list => "list".toList
  | group => "_ArgumentGroup".toList
  | all => "dict".toList

/-- The properties of an option by their names. -/
def named : List (Text × Property) := [
  ("option_strings".toList, list),
  ("dest".toList, text),
  ("nargs".toList, absent),
  ("const".toList, absent),
  ("default".toList, text),
  ("type".toList, absent),
  ("choices".toList, absent),
  ("required".toList, truth),
  ("help".toList, text),
  ("metavar".toList, absent),
  ("container".toList, group),
  ("prog".toList, text)]

end Property

/-- Why a directive cannot be followed. -/
inductive DirectiveError where
  /-- No property has the name. -/
  | unknownName (name : Text)
  /-- The name does not end. -/
  | unclosedName
  /-- The description ends within the directive. -/
  | incomplete
  /-- There is nothing left to show. -/
  | exhausted
  /-- A width or precision is taken from a property that is no number. -/
  | starNeedsNumber
  | widthTooBig
  | precisionTooBig
  /-- The letter shows whole numbers, and the property is none. -/
  | needsNumber (letter : Char) (property : Property)
  /-- The letter shows numbers, and the property is none. -/
  | needsReal (property : Property)
  /-- The letter shows characters, and the property is none. -/
  | needsCharacter
  /-- The letter at an index of the description does not say how to show anything. -/
  | unknownLetter (letter : Char) (index : Nat)
  deriving DecidableEq, Repr

namespace DirectiveError

/-- A letter as it is shown in an error: outside of ASCII it is a question mark. -/
def shownLetter (letter : Char) : Char :=
  if 31 ≤ letter.toNat && letter.toNat ≤ 126 then letter else '?'

/-- The text of an error in a directive. -/
def message : DirectiveError → Text
  | unknownName name => Text.quoted name
  | unclosedName => "incomplete format key".toList
  | incomplete => "incomplete format".toList
  | exhausted => "not enough arguments for format string".toList
  | starNeedsNumber => "* wants int".toList
  | widthTooBig => "width too big".toList
  | precisionTooBig => "precision too big".toList
  | needsNumber letter property =>
    let kind := if ['o', 'x', 'X'].contains letter then "an integer" else "a real number"
    ['%', letter] ++ " format: ".toList ++ kind.toList ++ " is required, not ".toList ++
      property.kindName
  | needsReal property => "must be real number, not ".toList ++ property.kindName
  | needsCharacter => "%c requires int or char".toList
  | unknownLetter letter index =>
    "unsupported format character '".toList ++ [shownLetter letter] ++ "' (0x".toList ++
      Nat.toDigits 16 letter.toNat ++ ") at index ".toList ++ Number.renderNat index

end DirectiveError

/-- Where in a description the next character stands. -/
inductive DirectivePlace where
  /-- Outside of directives. -/
  | outside
  /-- After the percent sign. -/
  | start
  /-- In a name, with the number of open parentheses and the name so far, reversed. -/
  | name (depth : Nat) (reversed : Text)
  /-- Where flags or a width may stand. -/
  | flags
  /-- After some digits of a width. -/
  | width (value : Nat)
  /-- Where the point before a precision may stand. -/
  | point
  /-- After the point. -/
  | precision
  /-- After some digits of a precision. -/
  | places (value : Nat)
  /-- Where a length letter may stand. -/
  | length
  /-- Where only the last letter may stand. -/
  | letter
  deriving DecidableEq, Repr

/-- How far a description has been followed: the place of the next character and what the
next directive without a name shows, if anything is left. -/
structure DirectiveState where
  place : DirectivePlace
  next : Option Property
  deriving DecidableEq, Repr

/-- What following one character gives. -/
abbrev DirectiveStep := Except DirectiveError DirectiveState

/-- The greatest width. -/
def widthLimit : Nat := Nat.pow 2 63 - 1

/-- The greatest precision. -/
def precisionLimit : Nat := Nat.pow 2 31 - 1

/-- A number with one more digit. -/
def appendDigit (value : Nat) (digit : Char) : Nat := 10 * value + (digit.toNat - '0'.toNat)

/-- Follows the last letter of a directive. -/
def followLetter (next : Option Property) (c : Char) (index : Nat) : DirectiveStep :=
  match next with
  | none => .error .exhausted
  | some property =>
    if ['s', 'r', 'a'].contains c || property = .truth && "diuoxXeEfFgGc".toList.contains c then
      .ok ⟨.outside, none⟩
    else if "diuoxX".toList.contains c then .error (.needsNumber c property)
    else if "eEfFgG".toList.contains c then .error (.needsReal property)
    else if c = 'c' then .error .needsCharacter
    else .error (.unknownLetter c index)

/-- Follows a length letter, or the last letter. -/
def followLength (next : Option Property) (c : Char) (index : Nat) : DirectiveStep :=
  if ['h', 'l', 'L'].contains c then .ok ⟨.letter, next⟩ else followLetter next c index

/-- Follows a star, which takes a number from what is to be shown. -/
def followStar (place : DirectivePlace) : Option Property → DirectiveStep
  | none => .error .exhausted
  | some .truth => .ok ⟨place, none⟩
  | some _ => .error .starNeedsNumber

/-- Follows the point before a precision, or what comes after. -/
def followPoint (next : Option Property) (c : Char) (index : Nat) : DirectiveStep :=
  if c = '.' then .ok ⟨.precision, next⟩ else followLength next c index

/-- Follows a flag, the beginning of a width, or what comes after. -/
def followFlags (next : Option Property) (c : Char) (index : Nat) : DirectiveStep :=
  if "-+ #0".toList.contains c then .ok ⟨.flags, next⟩
  else if c = '*' then followStar .point next
  else if c.isDigit then .ok ⟨.width (appendDigit 0 c), next⟩
  else followPoint next c index

/-- Follows one character of a name. -/
def followName (next : Option Property) (depth : Nat) (reversed : Text) (c : Char) :
    DirectiveStep :=
  if c = ')' && depth = 1 then
    match Property.named.lookup reversed.reverse with
    | some property => .ok ⟨.flags, some property⟩
    | none => .error (.unknownName reversed.reverse)
  else
    let depth := if c = '(' then depth + 1 else if c = ')' then depth - 1 else depth
    .ok ⟨.name depth (c :: reversed), next⟩

/-- Follows the character at an index of a description. -/
def followCharacter (state : DirectiveState) (c : Char) (index : Nat) : DirectiveStep :=
  let next := state.next
  match state.place with
  | .outside => .ok ⟨if c = '%' then .start else .outside, next⟩
  | .start =>
    if c = '%' then .ok ⟨.outside, next⟩
    else if c = '(' then .ok ⟨.name 1 [], next⟩
    else followFlags next c index
  | .name depth reversed => followName next depth reversed c
  | .flags => followFlags next c index
  | .width value =>
    if !c.isDigit then followPoint next c index
    else if widthLimit < appendDigit value c then .error .widthTooBig
    else .ok ⟨.width (appendDigit value c), next⟩
  | .point => followPoint next c index
  | .precision =>
    if c = '*' then followStar .length next
    else if c.isDigit then .ok ⟨.places (appendDigit 0 c), next⟩
    else followLength next c index
  | .places value =>
    if !c.isDigit then followLength next c index
    else if precisionLimit < appendDigit value c then .error .precisionTooBig
    else .ok ⟨.places (appendDigit value c), next⟩
  | .length => followLength next c index
  | .letter => followLetter next c index

/-- Follows a description from a state and an index on to its end. -/
def followDescription (state : DirectiveState) (index : Nat) :
    Text → Except DirectiveError Unit
  | [] =>
    match state.place with
    | .outside => .ok ()
    | .name _ _ => .error .unclosedName
    | _ => .error .incomplete
  | c :: rest => do
    let state ← followCharacter state c index
    followDescription state (index + 1) rest

/-- Checks that every directive of a description can be followed. -/
def checkDescription (description : Text) : Except DirectiveError Unit :=
  followDescription ⟨.outside, some .all⟩ 0 description

end Rowscript.CommandLine
