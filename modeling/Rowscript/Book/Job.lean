import Rowscript.Book.Scratch
import Rowscript.Mapping.Transform
import Rowscript.Settings

/-!
# Transforming the sheets of a book

A job reads the source and mapping sheets of a spreadsheet, transforms the source by the
mapping with formulas computed in a scratch cell, and writes the output sheet. Nothing is
written before the whole output has been computed.
-/

namespace Rowscript

/-- Why a job fails. -/
inductive JobError where
  | config (cause : ConfigError)
  | address (cause : AddressError)
  | client (cause : ClientError)
  | rule (cause : RuleError)
  | evaluation (cause : EvaluationError ClientError)
  deriving DecidableEq, Repr

/-- The text of the error of a job. -/
def JobError.message : JobError → Text
  | .config cause => cause.message
  | .address cause => cause.message
  | .client cause => cause.message
  | .rule cause => cause.message
  | .evaluation cause => cause.message ClientError.message

/-- What kind of failure ended a job. -/
inductive FailureKind where
  /-- The settings or the sheets are not as they have to be. -/
  | configuration
  /-- A rule cannot be read. -/
  | rule
  /-- The service refused a request. -/
  | service
  /-- Anything that a caller is not expected to handle. -/
  | unexpected
  deriving DecidableEq, Repr

/-- The kind of failure that a client error is. -/
def ClientError.kind : ClientError → FailureKind
  | .refused _ _ => .service
  | .noCredentials _ => .unexpected

/-- The kind of failure that an error of a job is. -/
def JobError.kind : JobError → FailureKind
  | .config _ => .configuration
  | .rule _ => .rule
  | .client cause => cause.kind
  | .evaluation (.sandbox cause) => cause.kind
  | _ => .unexpected

/-- The error of a job whose transformation fails. -/
def JobError.ofTransform : TransformError ClientError → JobError
  | .rule cause => .rule cause
  | .evaluation cause => .evaluation cause

/-- A job: the spreadsheet it works on and the cell in which formulas are computed. -/
structure Job where
  spreadsheet : Text
  scratch : ScratchCell
  deriving DecidableEq, Repr

/-- A computation of a job over a connection. -/
abbrev JobM := ExceptT JobError (StateM Connection)

namespace Job

/-- The job that the settings describe, perhaps on another spreadsheet. -/
def ofSettings (settings : Settings) (override : Option Text) : Except JobError Job := do
  let spreadsheet ← (settings.requireSheets override).mapError JobError.config
  let scratch ← (ScratchCell.at? spreadsheet settings.sandboxSheet settings.sandboxCell).mapError
    JobError.address
  return ⟨spreadsheet, scratch⟩

/-- Lets the client do something for a job. -/
def viaClient {α : Type} (action : Client α) : JobM α := ExceptT.adapt JobError.client action

/-- Checks that the source, mapping and output sheets exist. Once they have been found they
are not looked for again. -/
def checkSheets (access : Access) (settings : Settings) (job : Job) : JobM Unit := do
  if (← get).sheetsFound then return ()
  let titles ← viaClient (Client.sheetTitles access job.spreadsheet)
  match settings.dataSheets.find? fun sheet => !titles.contains sheet with
  | some sheet => throw (.config (.sheetMissing sheet job.spreadsheet))
  | none => modify fun connection => { connection with sheetsFound := true }

/-- Reads the source table. -/
def readSource (access : Access) (settings : Settings) (job : Job) : JobM Source := do
  job.checkSheets access settings
  let grid ← viaClient (Client.readSheet access job.spreadsheet settings.sourceSheet)
  return Source.ofGrid grid

/-- Reads the mapping table. -/
def readMapping (access : Access) (settings : Settings) (job : Job) :
    JobM (List (Text × Text)) := do
  job.checkSheets access settings
  let grid ← viaClient (Client.readSheet access job.spreadsheet settings.mappingSheet)
  return columnPairs settings.mappingHasHeader grid

/-- Reads the source and mapping tables and the rules of the mapping. -/
def load (access : Access) (settings : Settings) (job : Job) : JobM (Source × RuleSet) := do
  let source ← job.readSource access settings
  let mapping ← job.readMapping access settings
  match RuleSet.load source.headers mapping with
  | .ok rules => return (source, rules)
  | .error cause => throw (.rule cause)

/-- Reads the rules of the mapping without processing any row. -/
def validate (access : Access) (settings : Settings) (job : Job) : JobM RuleSet := do
  let (_, rules) ← job.load access settings
  return rules

/-- Replaces the output sheet by the given rows. -/
def writeOutput (access : Access) (settings : Settings) (job : Job)
    (values : List (List Text)) : Client Unit := do
  Client.clear access job.spreadsheet (sheetRange settings.outputSheet [])
  Client.writeOrFail access .writeOutput job.spreadsheet
    (sheetRange settings.outputSheet "A1".toList) (values.map (List.map Cell.text))

/-- Transforms the source sheet into the output sheet. A dry run leaves the output sheet as
it is. -/
def run (access : Access) (settings : Settings) (job : Job) (dryRun : Bool) :
    JobM Transformed := do
  let (source, rules) ← job.load access settings
  let result ← ExceptT.adapt JobError.evaluation
    (rules.run (job.scratch.evaluate access) source)
  if !dryRun then viaClient (job.writeOutput access settings result.values)
  return result

end Job

end Rowscript
