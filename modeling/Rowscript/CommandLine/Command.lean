import Rowscript.CommandLine.Arguments
import Rowscript.CommandLine.HelpText
import Rowscript.Settings

/-!
# Commands

The program has five commands: to run a transformation, to check a mapping, to list the
tokens of an instruction, to start the server and to acquire credentials.
-/

namespace Rowscript.CommandLine

/-- How the server is to be started. Host and port are missing if they were left without a
value. -/
structure Serving where
  host : Option Text
  port : Option Int
  reload : Bool
  deriving DecidableEq, Repr

/-- A command with its options. -/
inductive Command where
  | run (spreadsheet : Option Text) (dryRun : Bool)
  | check (spreadsheet : Option Text)
  | tokenize (instruction : Text)
  | serve (serving : Serving)
  | auth
  deriving DecidableEq, Repr

/-- What stands before the command. -/
def topGrammar : Grammar := ⟨[.help, .verbose], .command⟩

/-- What each command takes, by its name. -/
def commandGrammars : List (Text × Grammar) := [
  ("run".toList, ⟨[.help, .spreadsheet, .dryRun], .none⟩),
  ("check".toList, ⟨[.help, .spreadsheet], .none⟩),
  ("tokenize".toList, ⟨[.help], .one⟩),
  ("serve".toList, ⟨[.help, .host, .port, .reload], .none⟩),
  ("auth".toList, ⟨[.help], .none⟩)]

/-- How the server is to be started by the arguments of the command. Host and port default to
the configured ones. -/
def servingOf (settings : Settings) (r : Reading) : Serving where
  host := (r.given? .host).getD (some settings.host)
  port := ((r.given? .port).map fun value => value.bind Number.readInt?).getD
    (some settings.port)
  reload := r.has .reload

/-- The command of a given name whose arguments have been read. -/
def commandOf (settings : Settings) (name : Text) (r : Reading) : Option Command :=
  let spreadsheet := (r.given? .spreadsheet).join
  if name = "run".toList then some (.run spreadsheet (r.has .dryRun))
  else if name = "check".toList then some (.check spreadsheet)
  else if name = "tokenize".toList then r.positional.head?.map .tokenize
  else if name = "serve".toList then some (.serve (servingOf settings r))
  else if name = "auth".toList then some .auth
  else none

/-- What a command line asks for. -/
inductive Ask where
  /-- Nothing: there is no command. -/
  | nothing
  /-- Help. -/
  | help
  /-- Help that cannot be printed. -/
  | brokenHelp (cause : DirectiveError)
  /-- Nothing that can be understood. -/
  | misuse
  /-- To carry out a command. -/
  | command (command : Command)
  deriving DecidableEq, Repr

/-- The description of the option that names the host. -/
def hostDescription (settings : Settings) : Text :=
  "Host to bind to (default: ".toList ++ settings.host ++ ")".toList

/-- What a request for help with a command asks for. Only the description of the host may hold
directives. -/
def askHelp (settings : Settings) (name : Text) : Ask :=
  if name = "serve".toList then
    match checkDescription (hostDescription settings) with
    | .ok () => .help
    | .error cause => .brokenHelp cause
  else .help

/-- What an interruption of the reading of arguments asks for, given the answer to a request
for help. -/
def Interruption.ask (onHelp : Ask) : Interruption → Ask
  | .help => onHelp
  | .misuse => .misuse

/-- What a command with its arguments asks for. Arguments that nothing takes are misuse, which
counts only when all others have been read. -/
def askCommand (settings : Settings) (hasExtras : Bool) (name : Text) (args : List Text) : Ask :=
  match commandGrammars.lookup name with
  | none => .misuse
  | some grammar =>
    match read grammar args with
    | .error interruption => interruption.ask (askHelp settings name)
    | .ok reading =>
      match commandOf settings name reading with
      | none => .misuse
      | some command => if hasExtras || reading.hasExtras then .misuse else .command command

/-- What a command line asks for. -/
def ask (settings : Settings) (args : List Text) : Ask :=
  match read topGrammar args with
  | .error interruption => interruption.ask .help
  | .ok top =>
    match top.positional with
    | [] => if top.hasExtras then .misuse else .nothing
    | name :: rest => askCommand settings top.hasExtras name rest

end Rowscript.CommandLine
