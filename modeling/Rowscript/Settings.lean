import Rowscript.Number.Integer
import Rowscript.Text.Quoted

/-!
# Settings

The settings say which spreadsheet and which of its sheets take part in a
transformation, and how the server runs. They are read from named variables, each with a
default, and checked before a spreadsheet is touched.
-/

namespace Rowscript

/-- The settings of the program. -/
structure Settings where
  /-- The file with the credentials of the program. -/
  credentialsPath : Text
  /-- The file with the token of a user who has given consent. -/
  tokenPath : Text
  /-- The identifier of the spreadsheet, if one is configured. -/
  spreadsheet : Option Text
  sourceSheet : Text
  mappingSheet : Text
  outputSheet : Text
  /-- Whether the first row of the mapping sheet is a header. -/
  mappingHasHeader : Bool
  /-- The sheet of the scratch cell. -/
  sandboxSheet : Text
  /-- The address of the scratch cell. -/
  sandboxCell : Text
  /-- The host name that the server listens on. -/
  host : Text
  /-- The port that the server listens on. -/
  port : Int
  debug : Bool
  /-- The origins from which a browser may call the server. -/
  origins : List Text
  logLevel : Text
  deriving DecidableEq, Repr

/-- A port that is not read as a whole number. -/
structure PortError where
  /-- The text that was given for the port. -/
  given : Text
  /-- Why it is not read. -/
  cause : Number.IntegerError
  deriving DecidableEq, Repr

/-- The text of an error in a port. Of a long port only the beginning is shown. -/
def PortError.message (e : PortError) : Text :=
  match e.cause with
  | .malformed =>
    "invalid literal for int() with base 10: ".toList ++ (Text.quoted e.given).take 200
  | .tooManyDigits digits => Number.tooManyDigitsText digits

/-- A file path in its shortest form: without empty parts and parts that stay in place. Two
slashes at the beginning are kept, any other number of them becomes one. -/
def normalizePath (path : Text) : Text :=
  let parts := (Text.splitOn '/' path).filter fun part => part ≠ [] && part ≠ ['.']
  let slashes := (path.takeWhile (· = '/')).length
  let root := if slashes = 0 then [] else if slashes = 2 then ['/', '/'] else ['/']
  let whole := root ++ Text.join ['/'] parts
  if whole = [] then ['.'] else whole

/-- Whether a variable says yes. -/
def saysTrue (value : Text) : Bool := Text.lowerAscii value = "true".toList

/-- The origins that a comma-separated list allows; an empty list allows every origin. -/
def readOrigins (value : Text) : List Text :=
  if value = [] then [['*']] else Text.splitOn ',' value

namespace Settings

/-- Reads the settings from named variables. -/
def ofVariables (lookup : Text → Option Text) : Except PortError Settings := do
  let get := fun name fallback : String => (lookup name.toList).getD fallback.toList
  let portText := get "PORT" "8000"
  let port ← (Number.readInt portText).mapError fun cause => PortError.mk portText cause
  let spreadsheet := get "SPREADSHEET_ID" ""
  return {
    credentialsPath := normalizePath (get "GOOGLE_CREDENTIALS_PATH" "credentials.json")
    tokenPath := normalizePath (get "GOOGLE_TOKEN_PATH" "token.json")
    spreadsheet := if spreadsheet = [] then none else some spreadsheet
    sourceSheet := get "SOURCE_SHEET" "Source"
    mappingSheet := get "MAPPING_SHEET" "Mapping"
    outputSheet := get "OUTPUT_SHEET" "Output"
    mappingHasHeader := saysTrue (get "MAPPING_HAS_HEADER_ROW" "true")
    sandboxSheet := get "SANDBOX_SHEET" "_sandbox"
    sandboxCell := get "SANDBOX_CELL" "A1"
    host := get "HOST" "127.0.0.1"
    port := port
    debug := saysTrue (get "DEBUG" "false")
    origins := readOrigins (get "CORS_ALLOW_ORIGINS" "")
    logLevel := get "LOG_LEVEL" "INFO" }

/-- The sheets that hold the data of a transformation. -/
def dataSheets (s : Settings) : List Text := [s.sourceSheet, s.mappingSheet, s.outputSheet]

end Settings

/-- What may be wrong with the settings for a transformation. -/
inductive ConfigError where
  | noSpreadsheet
  | emptySheetName (role : Text)
  | sheetsNotDistinct (names : List Text)
  | sheetMissing (sheet spreadsheet : Text)
  deriving DecidableEq, Repr

/-- The text of an error in the settings. -/
def ConfigError.message : ConfigError → Text
  | .noSpreadsheet => "No spreadsheet id configured (set SPREADSHEET_ID)".toList
  | .emptySheetName role => "The ".toList ++ role ++ " sheet name is empty".toList
  | .sheetsNotDistinct names =>
    "Source, mapping, output and sandbox sheets must be different (got ".toList ++
      Text.join ", ".toList names ++ ")".toList
  | .sheetMissing sheet spreadsheet =>
    "Sheet '".toList ++ sheet ++ "' not found in spreadsheet ".toList ++ spreadsheet

namespace Settings

/-- The spreadsheet of a transformation: the given one, or else the configured one. An empty
identifier counts as none. -/
def chooseSpreadsheet (s : Settings) (override : Option Text) : Except ConfigError Text :=
  match override.getD [] with
  | [] =>
    match s.spreadsheet.getD [] with
    | [] => .error .noSpreadsheet
    | id => .ok id
  | id => .ok id

/-- Checks that every sheet has a name and gives the role of the first that has none. -/
def checkSheetNames (s : Settings) : Except ConfigError Unit :=
  let sheets := [("source", s.sourceSheet), ("mapping", s.mappingSheet),
    ("output", s.outputSheet), ("sandbox", s.sandboxSheet)]
  match sheets.find? fun sheet => Text.trim sheet.2 = [] with
  | some (role, _) => .error (.emptySheetName role.toList)
  | none => .ok ()

/-- Checks that no sheet is used twice. -/
def checkDistinctSheets (s : Settings) : Except ConfigError Unit :=
  let names := s.dataSheets ++ [s.sandboxSheet]
  if names.Nodup then .ok () else .error (.sheetsNotDistinct names)

/-- Checks that everything a transformation needs is configured and gives its
spreadsheet. -/
def requireSheets (s : Settings) (override : Option Text) : Except ConfigError Text := do
  let spreadsheet ← s.chooseSpreadsheet override
  s.checkSheetNames
  s.checkDistinctSheets
  return spreadsheet

end Settings

end Rowscript
