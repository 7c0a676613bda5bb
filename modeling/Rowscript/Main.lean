import Rowscript.CommandLine.Program

/-!
# The program

The command line carries out one command. Its settings come from the environment, and it
works on a book that it keeps in memory.
-/

namespace Rowscript

/-- The variables of the environment that the settings are read from. -/
def settingsVariables : List String := ["GOOGLE_CREDENTIALS_PATH", "GOOGLE_TOKEN_PATH",
  "SPREADSHEET_ID", "SOURCE_SHEET", "MAPPING_SHEET", "OUTPUT_SHEET", "MAPPING_HAS_HEADER_ROW",
  "SANDBOX_SHEET", "SANDBOX_CELL", "HOST", "PORT", "DEBUG", "CORS_ALLOW_ORIGINS", "LOG_LEVEL"]

/-- A book without sheets. -/
def Book.empty : Book := ⟨some [], [], [], [], []⟩

/-- Whether a file can be read. -/
def canRead (path : Text) : IO Bool := do
  try
    let _ ← IO.FS.readBinFile (String.ofList path)
    return true
  catch _ => return false

/-- Reads the settings from the environment. -/
def environmentSettings : IO (Except PortError Settings) := do
  let given ← settingsVariables.filterMapM fun name => do
    return (← IO.getEnv name).map fun value => (name.toList, value.toList)
  return Settings.ofVariables fun name => given.lookup name

/-- Prints how a command has ended and gives its exit status. -/
def conclude : Except CommandLine.ProgramError CommandLine.Exit → IO UInt32
  | .error e => do
    IO.eprintln (String.ofList e.message)
    return 1
  | .ok ended => do
    IO.print (String.ofList ended.stdout)
    IO.eprint (String.ofList ended.stderr)
    return ended.status.toUInt32

end Rowscript

/-- Carries out the command that the arguments name. -/
def main (args : List String) : IO UInt32 := do
  match ← Rowscript.environmentSettings with
  | .error e =>
    IO.eprintln (String.ofList e.message)
    return 1
  | .ok settings =>
    let hasToken ← Rowscript.canRead settings.tokenPath
    let hasCredentials ← Rowscript.canRead settings.credentialsPath
    let access := if hasToken || hasCredentials then Rowscript.Access.granted
      else .noCredentials settings.credentialsPath
    let (outcome, _) :=
      Rowscript.CommandLine.run access settings Rowscript.Book.empty (args.map String.toList)
    Rowscript.conclude outcome
