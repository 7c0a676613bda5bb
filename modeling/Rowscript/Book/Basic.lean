import Rowscript.Cell.Basic
import Rowscript.Row.Context

/-!
# Books

A book is a spreadsheet as its service shows it: sheet titles, grids stored under the texts
of their ranges, and the values that formulas have when they are read unformatted. It
counts and notes every request it receives, and it may refuse some of them.

Ranges are compared as texts, so they do not overlap: a whole sheet and some of its cells are
different ranges, and emptying the one leaves what is stored under the other. A formula has its
value by its text alone, and reads no cell.
-/

namespace Rowscript

/-- Why the service refuses a request. -/
structure Refusal where
  /-- The status code of the answer. -/
  status : Int
  /-- The explanation that came with it. -/
  reason : Text
  deriving DecidableEq, Repr

/-- The text of a refusal. Blanks around its explanation are left out. -/
def Refusal.message (r : Refusal) : Text :=
  "<HttpError ".toList ++ Number.renderInt r.status ++ " \"".toList ++ Text.trim r.reason ++
    "\">".toList

/-- A request to the service; all but the list of titles and the new sheet name a range. -/
inductive Request where
  | listTitles (spreadsheet : Text)
  | addSheet (spreadsheet title : Text)
  | read (spreadsheet range rendering : Text)
  | write (spreadsheet range : Text) (values : Grid)
  | clear (spreadsheet range : Text)
  deriving DecidableEq, Repr

/-- A book. -/
structure Book where
  /-- The titles of the sheets; they are missing when the service does not list any. -/
  titles : Option (List Text)
  /-- The grids by the texts of their ranges. -/
  store : Bindings Grid
  /-- The values of formulas by their texts. -/
  formulas : Bindings Cell
  /-- The refusals by the number of the request that they answer, counted from one. -/
  refusals : List (Nat × Refusal)
  /-- The requests received so far, the latest first. -/
  log : List Request
  deriving Repr

/-- The rendering in which cells are read as a sheet displays them. -/
def formattedRendering : Text := "FORMATTED_VALUE".toList

/-- The rendering in which formulas are read as their values. -/
def unformattedRendering : Text := "UNFORMATTED_VALUE".toList

namespace Book

/-- Receives a request: it is noted, and refused if a refusal is scheduled for it. -/
def receive (book : Book) (request : Request) : Option Refusal × Book :=
  let log := request :: book.log
  (book.refusals.lookup log.length, { book with log := log })

/-- The titles of the sheets. -/
def sheetTitles (book : Book) : List Text := book.titles.getD []

/-- Adds a sheet after the others. -/
def addTitle (book : Book) (title : Text) : Book :=
  { book with titles := some (book.sheetTitles ++ [title]) }

/-- Empties a range. What is stored under other texts stays, also for cells of the same sheet. -/
def erase (book : Book) (range : Text) : Book :=
  { book with store := book.store.filter fun entry => entry.1 ≠ range }

/-- Stores a grid under a range. -/
def put (book : Book) (range : Text) (values : Grid) : Book :=
  { book with store := (range, values) :: (book.erase range).store }

/-- The grid stored under a range. -/
def grid (book : Book) (range : Text) : Grid := (book.store.lookup range).getD []

/-- The value of a stored cell: a formula has the value that the book lists for it, or
none. -/
def cellValue (book : Book) (cell : Cell) : Cell :=
  match cell with
  | .text t => if t.head? = some '=' then (book.formulas.lookup t).getD (.text []) else cell
  | _ => cell

/-- The grid under a range as it is read in a rendering. -/
def rendered (book : Book) (range rendering : Text) : Grid :=
  if rendering = unformattedRendering then (book.grid range).map (List.map book.cellValue)
  else book.grid range

end Book

end Rowscript
