import Rowscript.Book.Job
import Rowscript.CommandLine.Command

/-!
# Carrying out commands

A command ends with an exit status and what it has printed. Failures that a user can do
something about are printed as errors; all others are left to the caller.
-/

namespace Rowscript.CommandLine

/-- Why a command line is left to the caller. -/
inductive ProgramError where
  | job (cause : JobError)
  | help (cause : DirectiveError)
  deriving DecidableEq, Repr

/-- The text of the error of a command line. -/
def ProgramError.message : ProgramError → Text
  | .job cause => cause.message
  | .help cause => cause.message

/-- How a command has ended. -/
structure Exit where
  /-- The exit status. -/
  status : Nat
  /-- What was printed as output. -/
  stdout : Text
  /-- What was printed as errors. -/
  stderr : Text
  /-- The server that the command asks for. -/
  serving : Option Serving
  deriving DecidableEq, Repr

/-- The summary of the arguments that misuse is answered with. -/
def usageText : Text :=
  "usage: rowscript [-h] [-v] \x7brun,check,tokenize,serve,auth\x7d ...\n".toList

/-- The help text. -/
def helpText : Text :=
  usageText ++ "\nRow-level spreadsheet transformations from a mapping table.\n".toList

/-- Lines of text, each with the end of its line. -/
def linesText (printed : List Text) : Text := printed.flatMap fun line => line ++ ['\n']

namespace Exit

/-- A command that has done its work and printed some lines. -/
def done (printed : List Text) : Exit := ⟨0, linesText printed, [], none⟩

/-- A command that has failed with an error to print. -/
def failed (status : Nat) (message : Text) : Exit :=
  ⟨status, [], linesText ["Error: ".toList ++ message], none⟩

end Exit

/-- The exit status that a failure of a job is printed with; it is missing for failures that
are left to the caller. -/
def exitStatus? : FailureKind → Option Nat
  | .configuration => some 2
  | .rule => some 1
  | .service => some 1
  | .unexpected => none

/-- Ends a command by the outcome of a job: with the lines that its result prints, or with
its error. -/
def conclude {α : Type} (lines : α → List Text) : Except JobError α → Except JobError Exit
  | .ok result => .ok (.done (lines result))
  | .error e =>
    match exitStatus? e.kind with
    | some status => .ok (.failed status e.message)
    | none => .error e

/-- The line that reports a transformation. -/
def transformedLine (dryRun : Bool) (result : Transformed) : Text :=
  (if dryRun then "Computed ".toList else "Wrote ".toList) ++
    Number.renderNat result.rows.length ++ " rows (".toList ++
    Number.renderNat result.rowsFiltered ++ " of ".toList ++
    Number.renderNat result.rowsRead ++ " filtered out) with ".toList ++
    Number.renderNat result.headers.length ++ " columns.".toList

/-- The line that lists a filter. -/
def filterLine (rule : FilterRule) : Text :=
  "Filter '".toList ++ rule.name ++ "' (".toList ++
    (if rule.active then "eval".toList else "documentation only".toList) ++ "): ".toList ++
    rule.raw

/-- The lines that list a valid mapping. -/
def ruleSetLines (rules : RuleSet) : List Text :=
  let headers := Text.join ", ".toList rules.outputHeaders
  ["Mapping is valid.".toList,
    "Output columns: ".toList ++ (if headers = [] then "(none)".toList else headers)] ++
    rules.filters.map filterLine

/-- The line that lists a token. -/
def tokenLine (token : Token) : Text :=
  Text.padRight 11 token.kind.name ++ [' '] ++ Text.padRight 24 (Text.quoted token.value) ++
    " raw=".toList ++ Text.quoted token.raw

/-- Acquires credentials and reports on it. -/
def authenticate : Access → Exit
  | .granted =>
    .done ["Authenticating with Google Sheets API...".toList,
      "Authentication successful!".toList,
      "Token saved. You can now use SheetRules with Google Sheets.".toList]
  | .noCredentials path =>
    ⟨1, linesText ["Authenticating with Google Sheets API...".toList,
      "Authentication failed: ".toList ++ (ClientError.noCredentials path).message], [], none⟩

/-- Carries out a job over a new connection to a book. -/
def runJob {α : Type} (settings : Settings) (spreadsheet : Option Text) (book : Book)
    (work : Job → JobM α) : Except JobError α × Book :=
  match Job.ofSettings settings spreadsheet with
  | .error e => (.error e, book)
  | .ok job =>
    let (outcome, connection) := (work job).run (Connection.fresh book)
    (outcome, connection.book)

/-- Carries out a command on a book. -/
def execute (access : Access) (settings : Settings) (book : Book) :
    Command → Except JobError Exit × Book
  | .run spreadsheet dryRun =>
    let (outcome, book) := runJob settings spreadsheet book fun job =>
      job.run access settings dryRun
    (conclude (fun result => [transformedLine dryRun result]) outcome, book)
  | .check spreadsheet =>
    let (outcome, book) := runJob settings spreadsheet book fun job =>
      job.validate access settings
    (conclude ruleSetLines outcome, book)
  | .tokenize instruction => (.ok (.done ((tokenize instruction).map tokenLine)), book)
  | .serve serving => (.ok ⟨0, [], [], some serving⟩, book)
  | .auth => (.ok (authenticate access), book)

/-- Reads a command line and carries out its command on a book. -/
def run (access : Access) (settings : Settings) (book : Book) (args : List Text) :
    Except ProgramError Exit × Book :=
  match ask settings args with
  | .help => (.ok ⟨0, helpText, [], none⟩, book)
  | .brokenHelp cause => (.error (.help cause), book)
  | .misuse => (.ok ⟨2, [], usageText, none⟩, book)
  | .nothing => (.ok ⟨1, helpText, [], none⟩, book)
  | .command command =>
    let (outcome, book) := execute access settings book command
    (outcome.mapError ProgramError.job, book)

end Rowscript.CommandLine
