import Rowscript.Book.Basic
import Rowscript.Table.Address

/-!
# The client of a book

The client sends requests to a book and turns refusals into errors that say what was being
done. It needs credentials, which are looked for before the first request.
-/

namespace Rowscript

/-- Whether the client may send requests. Without credentials it knows where they were
expected. -/
inductive Access where
  | granted
  | noCredentials (path : Text)
  deriving DecidableEq, Repr

/-- What the client was doing when a request was refused. -/
inductive Action where
  | listTitles
  | addSheet (title : Text)
  | read
  | clear
  | writeFormula
  | writeOutput
  deriving DecidableEq, Repr

/-- Why the client fails. -/
inductive ClientError where
  | noCredentials (path : Text)
  | refused (action : Action) (refusal : Refusal)
  deriving DecidableEq, Repr

/-- The text that says that an action failed. -/
def Action.message : Action → Text
  | .listTitles => "Failed to get spreadsheet info".toList
  | .addSheet title => "Failed to add sheet '".toList ++ title ++ "'".toList
  | .read => "Failed to read range".toList
  | .clear => "Failed to clear range".toList
  | .writeFormula => "Failed to write sandbox formula".toList
  | .writeOutput => "Failed to write output".toList

/-- The text of a client error. -/
def ClientError.message : ClientError → Text
  | .noCredentials path =>
    "Google credentials file not found at ".toList ++ path ++
      ". Please download it from Google Cloud Console.".toList
  | .refused action refusal => action.message ++ ": ".toList ++ refusal.message

/-- A connection to a book, with what has been found out over it. -/
structure Connection where
  book : Book
  /-- Whether the scratch sheet is known to exist. -/
  scratchReady : Bool
  /-- Whether the source, mapping and output sheets of a job are known to exist. -/
  sheetsFound : Bool
  deriving Repr

/-- A new connection to a book. -/
def Connection.fresh (book : Book) : Connection := ⟨book, false, false⟩

/-- A computation that sends requests over a connection. What has been done is kept when it
fails. -/
abbrev Client := ExceptT ClientError (StateM Connection)

/-- What has come of writing a grid. -/
inductive WriteOutcome where
  /-- There was nothing to write. -/
  | nothing
  /-- A range was written, with so many rows and cells. -/
  | written (range : Text) (rows cells : Nat)
  /-- The service refused the request. -/
  | refused (refusal : Refusal)
  deriving DecidableEq, Repr

namespace Client

/-- Changes the book of the connection. -/
def modifyBook (f : Book → Book) : Client Unit :=
  modify fun connection => { connection with book := f connection.book }

/-- Sends a request and gives the refusal, if there is one. -/
def send (access : Access) (request : Request) : Client (Option Refusal) := do
  match access with
  | .noCredentials path => throw (.noCredentials path)
  | .granted =>
    let (refusal, book) := (← get).book.receive request
    modifyBook fun _ => book
    return refusal

/-- Sends a request; a refusal is an error of the given action. -/
def ask (access : Access) (action : Action) (request : Request) : Client Unit := do
  match ← send access request with
  | some refusal => throw (.refused action refusal)
  | none => return ()

/-- The titles of the sheets of a spreadsheet. -/
def sheetTitles (access : Access) (spreadsheet : Text) : Client (List Text) := do
  ask access .listTitles (.listTitles spreadsheet)
  return (← get).book.sheetTitles

/-- Adds a sheet to a spreadsheet. -/
def addSheet (access : Access) (spreadsheet title : Text) : Client Unit := do
  ask access (.addSheet title) (.addSheet spreadsheet title)
  modifyBook fun book => book.addTitle title

/-- Reads a range. -/
def read (access : Access) (spreadsheet range rendering : Text) : Client Grid := do
  ask access .read (.read spreadsheet range rendering)
  return (← get).book.rendered range rendering

/-- Reads a whole sheet as it is displayed. -/
def readSheet (access : Access) (spreadsheet sheet : Text) : Client Grid :=
  read access spreadsheet (sheetRange sheet []) formattedRendering

/-- Writes a grid to a range. No request is sent when there are no rows; a refusal is given
as the outcome. -/
def write (access : Access) (spreadsheet range : Text) (values : Grid) :
    Client WriteOutcome := do
  if values = [] then return .nothing
  match ← send access (.write spreadsheet range values) with
  | some refusal => return .refused refusal
  | none =>
    modifyBook fun book => book.put range values
    return .written range values.length values.flatten.length

/-- Writes a grid to a range; a refusal is an error of the given action. -/
def writeOrFail (access : Access) (action : Action) (spreadsheet range : Text)
    (values : Grid) : Client Unit := do
  match ← write access spreadsheet range values with
  | .refused refusal => throw (.refused action refusal)
  | _ => return ()

/-- Clears a range. -/
def clear (access : Access) (spreadsheet range : Text) : Client Unit := do
  ask access .clear (.clear spreadsheet range)
  modifyBook fun book => book.erase range

end Client

end Rowscript
