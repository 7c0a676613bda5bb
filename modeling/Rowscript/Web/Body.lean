import Rowscript.Table.Source
import Rowscript.Web.Json

/-!
# Request bodies

The body of a request is checked against what the route expects. All that is wrong with it
is reported at once, each problem with its kind and its place in the body, in the order of
the expected fields.
-/

namespace Rowscript.Web

/-- One step on the way to a place in a body. -/
inductive Step where
  | field (name : Text)
  | item (index : Nat)
  deriving DecidableEq, Repr

/-- What may be wrong with a value in a body. -/
inductive ProblemKind where
  | missing
  | notString
  | notList
  | notObject
  | notBool
  | unreadableBool
  deriving DecidableEq, Repr

/-- The name under which a kind of problem is reported. -/
def ProblemKind.name : ProblemKind → Text
  | .missing => "missing".toList
  | .notString => "string_type".toList
  | .notList => "list_type".toList
  | .notObject => "model_attributes_type".toList
  | .notBool => "bool_type".toList
  | .unreadableBool => "bool_parsing".toList

/-- A problem with a body and its place. -/
structure Problem where
  kind : ProblemKind
  place : List Step
  deriving DecidableEq, Repr

/-- A value that has been read from a body, or everything that is wrong with it. -/
abbrev Checked (α : Type) := Except (List Problem) α

/-- Reads a value at a place. -/
abbrev Reader (α : Type) := List Step → Json → Checked α

namespace Checked

/-- One problem. -/
def problem {α : Type} (kind : ProblemKind) (place : List Step) : Checked α :=
  .error [⟨kind, place⟩]

/-- Two values, or the problems of both. -/
def both {α β : Type} : Checked α → Checked β → Checked (α × β)
  | .ok a, .ok b => .ok (a, b)
  | .ok _, .error problems => .error problems
  | .error problems, .ok _ => .error problems
  | .error problems, .error more => .error (problems ++ more)

/-- All values, or the problems of all. -/
def all {α : Type} : List (Checked α) → Checked (List α)
  | [] => .ok []
  | first :: rest => (both first (all rest)).map fun (a, as) => a :: as

end Checked

namespace Reader

/-- Reads a string. -/
def string : Reader Text
  | _, .string value => .ok value
  | place, _ => .problem .notString place

/-- Reads a list. -/
def list {α : Type} (item : Reader α) : Reader (List α)
  | place, .array items =>
    .all (items.mapIdx fun index json => item (place ++ [.item index]) json)
  | place, _ => .problem .notList place

/-- The words that are read as a truth value. -/
def boolOfWord? (word : Text) : Option Bool :=
  if ["1", "t", "true", "y", "yes", "on"].any fun yes => word = yes.toList then some true
  else if ["0", "f", "false", "n", "no", "off"].any fun no => word = no.toList then some false
  else none

/-- Reads a truth value from a number. Only whole numbers of a machine word are considered, and
of these only one and zero are read. -/
def boolOfNumber (place : List Step) (mantissa : Int) (places : Nat) : Checked Bool :=
  let unit := Int.pow 10 places
  let whole := mantissa / unit
  if mantissa % unit ≠ 0 || whole < -Int.pow 2 63 || Int.pow 2 63 ≤ whole then
    .problem .notBool place
  else if whole = 0 then .ok false
  else if whole = 1 then .ok true
  else .problem .unreadableBool place

/-- Reads a truth value, which may also be written as a word in either case, as one or as
zero. -/
def bool : Reader Bool
  | _, .bool value => .ok value
  | place, .string value =>
    match boolOfWord? (Text.lowerAscii value) with
    | some b => .ok b
    | none => .problem .unreadableBool place
  | place, .number mantissa places => boolOfNumber place mantissa places
  | place, _ => .problem .notBool place

/-- Reads a value that may be null. -/
def nullable {α : Type} (value : Reader α) : Reader (Option α)
  | _, .null => .ok none
  | place, json => (value place json).map some

/-- Reads a field of an object; without a default it has to be there. -/
def field {α : Type} (name : String) (value : Reader α) (fallback : Option α) :
    List Step → List (Text × Json) → Checked α :=
  fun place members =>
    let inside := place ++ [.field name.toList]
    match members.lookup name.toList, fallback with
    | some json, _ => value inside json
    | none, some a => .ok a
    | none, none => .problem .missing inside

/-- Reads an object by its members. -/
def object {α : Type} (members : List Step → List (Text × Json) → Checked α) : Reader α
  | place, .object fields => members place fields
  | place, _ => .problem .notObject place

/-- Reads a row of a mapping: a header and an instruction, which is empty if it is not
given. -/
def mappingRule : Reader (Text × Text) :=
  object fun place members =>
    .both (field "header" string none place members)
      (field "instruction" string (some []) place members)

/-- Reads a source table; its rows may be left out. -/
def source : Reader Source :=
  object fun place members =>
    (Checked.both (field "headers" (list string) none place members)
      (field "rows" (list (list string)) (some []) place members)).map
      fun (headers, rows) => ⟨headers, rows⟩

/-- Reads the body of a request, which has to be there. -/
def body {α : Type} (reader : Reader α) : Option Json → Checked α
  | some json => reader [.field "body".toList] json
  | none => .problem .missing [.field "body".toList]

end Reader

end Rowscript.Web
