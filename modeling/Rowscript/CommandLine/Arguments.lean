import Rowscript.Number.Integer

/-!
# Command-line arguments

Arguments are options, values of options and positional arguments. An option is named in
full, by an unambiguous beginning of a long name, or by its letter; its value follows an
equals sign, the letter itself, or comes as the next argument. Letters of options without
values may share an argument. After two dashes all arguments are positional; where two
dashes are joined to an option as its value, they leave it without one.
-/

namespace Rowscript.CommandLine

/-- The options of all commands. -/
inductive Flag where
  | help
  | verbose
  | spreadsheet
  | dryRun
  | host
  | port
  | reload
  deriving DecidableEq, Repr

namespace Flag

/-- The names of an option. -/
def names : Flag → List Text
  | help => ["-h".toList, "--help".toList]
  | verbose => ["--verbose".toList, "-v".toList]
  | spreadsheet => ["--spreadsheet".toList, "-s".toList]
  | dryRun => ["--dry-run".toList]
  | host => ["--host".toList]
  | port => ["--port".toList]
  | reload => ["--reload".toList]

/-- Whether an option has a value. -/
def takesValue : Flag → Bool
  | spreadsheet => true
  | host => true
  | port => true
  | _ => false

/-- Whether an option accepts a value: a port has to be a whole number, if there is one. -/
def accepts : Flag → Option Text → Bool
  | port, some value => (Number.readInt? value).isSome
  | _, _ => true

end Flag

/-- What a command takes besides options. -/
inductive Positional where
  /-- No positional argument. -/
  | none
  /-- One positional argument. -/
  | one
  /-- A command, which takes all arguments that follow. -/
  | command
  deriving DecidableEq, Repr

/-- What a command line may consist of. -/
structure Grammar where
  flags : List Flag
  positional : Positional
  deriving DecidableEq, Repr

namespace Grammar

/-- The option with a given name. -/
def flag? (g : Grammar) (name : Text) : Option Flag :=
  g.flags.find? fun flag => flag.names.contains name

end Grammar

/-- What an argument is before its place is considered. -/
inductive Mark where
  /-- A value or positional argument. -/
  | plain
  /-- The two dashes after which all arguments are plain. -/
  | separator
  /-- An option by a long name, perhaps with a text assigned to it. -/
  | long (flag : Flag) (assigned : Option Text)
  /-- An option by its letter, perhaps with a text joined to it. -/
  | short (flag : Flag) (joined : Option Text)
  /-- An option that does not exist. -/
  | unknown
  deriving DecidableEq, Repr

/-- What may end the reading of a command line before its command is carried out. -/
inductive Interruption where
  /-- Help was asked for. -/
  | help
  /-- The arguments are not as they have to be. -/
  | misuse
  deriving DecidableEq, Repr

/-- What an attempt to read arguments gives. -/
abbrev Attempt (α : Type) := Except Interruption α

/-- A text cut at its first equals sign, if it has one. -/
def splitAssignment (t : Text) : Text × Option Text :=
  match t.span (· ≠ '=') with
  | (name, '=' :: value) => (name, some value)
  | (name, _) => (name, none)

/-- The options whose long names begin with a given text. -/
def abbreviated (g : Grammar) (beginning : Text) : List Flag :=
  g.flags.flatMap fun flag =>
    (flag.names.filter fun name => Text.startsWith beginning name).map fun _ => flag

/-- A text without one end of line at its end. -/
def dropLineEnd (t : Text) : Text := if t.getLast? = some '\n' then t.dropLast else t

/-- Whether an argument is a negative number, which is a value and no option. The end of a
line may follow it. -/
def isNegativeNumber : Text → Bool
  | '-' :: rest =>
    let (whole, fraction) := (dropLineEnd rest).span Text.isDigit
    match fraction with
    | [] => whole ≠ []
    | '.' :: digits => digits ≠ [] && digits.all Text.isDigit
    | _ => false
  | _ => false

/-- The mark of an argument that is no option by its form: a negative number and a text with
a space are values. -/
def markOther (arg : Text) : Mark :=
  if isNegativeNumber arg || arg.contains ' ' then .plain else .unknown

/-- The text that is joined to the letter of an option. An equals sign between them does not
belong to it. -/
def joinedText : Text → Option Text
  | [] => none
  | '=' :: rest => some rest
  | rest => some rest

/-- What an argument before the separator is. A long name may be abbreviated; an ambiguous
abbreviation is misuse. -/
def markArgument (g : Grammar) (arg : Text) : Attempt Mark :=
  match arg with
  | '-' :: '-' :: _ =>
    let (name, assigned) := splitAssignment arg
    match g.flag? name, abbreviated g name with
    | some flag, _ => .ok (.long flag assigned)
    | none, [flag] => .ok (.long flag assigned)
    | none, [] => .ok (markOther arg)
    | none, _ => .error .misuse
  | '-' :: letter :: rest =>
    match g.flag? ['-', letter] with
    | some flag => .ok (.short flag (joinedText rest))
    | none => .ok (markOther arg)
  | _ => .ok .plain

/-- Marks all arguments. -/
def markArguments (g : Grammar) : List Text → Attempt (List (Mark × Text))
  | [] => .ok []
  | arg :: rest =>
    if arg = "--".toList then
      .ok ((.separator, arg) :: rest.map fun arg => (.plain, arg))
    else do
      let mark ← markArgument g arg
      return (mark, arg) :: (← markArguments g rest)

/-- The options of a command line with their values, if they have any. -/
abbrev GivenOptions := List (Flag × Option Text)

/-- What has been read of a command line. -/
structure Reading where
  /-- The options, the latest first. -/
  options : GivenOptions
  /-- The positional argument, or the command with its arguments. -/
  positional : List Text
  /-- Whether arguments are left that nothing takes. -/
  hasExtras : Bool
  deriving DecidableEq, Repr

namespace Reading

/-- Whether an option was given. -/
def has (r : Reading) (flag : Flag) : Bool := (r.options.lookup flag).isSome

/-- What an option was last given: its value, or nothing if it was left without one. -/
def given? (r : Reading) (flag : Flag) : Option (Option Text) := r.options.lookup flag

end Reading

/-- What one argument with options stands for. -/
structure Cluster where
  /-- The options with their values, from left to right. -/
  options : GivenOptions
  /-- How many of the following arguments are values of them. -/
  taken : Nat
  deriving DecidableEq, Repr

/-- An option without a value in its own argument; it may need the next one. -/
def readAlone (flag : Flag) (next : Option Text) : Attempt Cluster :=
  if flag.takesValue then
    match next with
    | some value => .ok ⟨[(flag, some value)], 1⟩
    | none => .error .misuse
  else .ok ⟨[(flag, none)], 0⟩

/-- An option with a value in its own argument. Two dashes are no value. -/
def readValue (flag : Flag) (value : Text) : Attempt Cluster :=
  if flag.takesValue then
    .ok ⟨[(flag, if value = "--".toList then none else some value)], 0⟩
  else .error .misuse

/-- An option by its letter with the text that follows: its value, or the letters of further
options. -/
def readLetters (g : Grammar) (flag : Flag) (next : Option Text) : Text → Attempt Cluster
  | [] => readAlone flag next
  | c :: rest =>
    if flag.takesValue then readValue flag (c :: rest)
    else match g.flag? ['-', c] with
      | none => .error .misuse
      | some other => do
        let cluster ← readLetters g other next rest
        return { cluster with options := (flag, none) :: cluster.options }

/-- An option by a long name. -/
def readLong (flag : Flag) (next : Option Text) : Option Text → Attempt Cluster
  | none => readAlone flag next
  | some assigned => readValue flag assigned

/-- An option by its letter. -/
def readShort (g : Grammar) (flag : Flag) (next : Option Text) : Option Text → Attempt Cluster
  | none => readAlone flag next
  | some [] => readValue flag []
  | some joined => readLetters g flag next joined

/-- Carries out options in order: a request for help and a value that is not accepted
interrupt the reading. -/
def applyOptions (reading : Reading) : GivenOptions → Attempt Reading
  | [] => .ok reading
  | (flag, value) :: rest =>
    if flag = .help then .error .help
    else if !flag.accepts value then .error .misuse
    else applyOptions { reading with options := (flag, value) :: reading.options } rest

/-- The argument that may be the value of an option before it. -/
def firstValue? : List (Mark × Text) → Option Text
  | (.plain, arg) :: _ => some arg
  | _ => none

/-- Arguments without the separator at their beginning, if there is one. -/
def dropSeparator : List (Mark × Text) → List (Mark × Text)
  | (.separator, _) :: rest => rest
  | marked => marked

/-- Dropping a separator does not add arguments. -/
theorem dropSeparator_length_le (marked : List (Mark × Text)) :
    (dropSeparator marked).length ≤ marked.length := by
  unfold dropSeparator
  split <;> simp

/-- Reads marked arguments from left to right. `taken` says whether the positional argument
has been read. -/
def readMarked (g : Grammar) (reading : Reading) (taken : Bool) :
    List (Mark × Text) → Attempt Reading
  | [] => .ok reading
  | (.long flag assigned, _) :: rest => do
    let cluster ← readLong flag (firstValue? rest) assigned
    let reading ← applyOptions reading cluster.options
    readMarked g reading taken (rest.drop cluster.taken)
  | (.short flag joined, _) :: rest => do
    let cluster ← readShort g flag (firstValue? rest) joined
    let reading ← applyOptions reading cluster.options
    readMarked g reading taken (rest.drop cluster.taken)
  | (.unknown, _) :: rest => readMarked g { reading with hasExtras := true } taken rest
  | (.plain, arg) :: rest =>
    match g.positional, taken with
    | .one, false =>
      readMarked g { reading with positional := [arg] } true (dropSeparator rest)
    | .command, false => .ok { reading with positional := arg :: rest.map Prod.snd }
    | _, _ => readMarked g { reading with hasExtras := true } taken rest
  | (.separator, separator) :: rest =>
    let used := !taken && rest ≠ []
    if used && g.positional = .command then
      .ok { reading with positional := separator :: rest.map Prod.snd }
    else if used && g.positional = .one then readMarked g reading taken rest
    else readMarked g { reading with hasExtras := true } taken rest
termination_by marked => marked.length
decreasing_by
  all_goals simp only [List.length_drop, List.length_cons]
  · omega
  · omega
  · omega
  · have := dropSeparator_length_le rest
    omega
  all_goals omega

/-- Reads the arguments of a command line. -/
def read (g : Grammar) (args : List Text) : Attempt Reading := do
  let marked ← markArguments g args
  readMarked g ⟨[], [], false⟩ false marked

end Rowscript.CommandLine
