import Rowscript.Book.Client
import Rowscript.Row.Evaluation

/-!
# The scratch cell

Formulas are computed by the spreadsheet itself: a formula is written to a scratch cell on
a sheet of its own, its value is read back, and the cell is cleared before and after.
Whoever uses the same cell has to take turns, so every cell has one lock.
-/

namespace Rowscript

/-- A scratch cell of a spreadsheet. -/
structure ScratchCell where
  spreadsheet : Text
  sheet : Text
  /-- The address as it was given, with its dollar signs and in its case. -/
  cell : Text
  deriving DecidableEq, Repr

namespace ScratchCell

/-- The scratch cell at an address. -/
def at? (spreadsheet sheet cell : Text) : Except AddressError ScratchCell := do
  let _ ← readAddress cell
  return ⟨spreadsheet, sheet, cell⟩

/-- The range of the scratch cell. -/
def range (scratch : ScratchCell) : Text := sheetRange scratch.sheet scratch.cell

/-- What the lock of a scratch cell is known by: the spreadsheet, the sheet, and the address
in upper case without dollar signs. -/
def lock (scratch : ScratchCell) : Text × Text × Text :=
  (scratch.spreadsheet, scratch.sheet, Text.upper (scratch.cell.filter (· ≠ '$')))

/-- For each cell of a list, the place of the first one with the same lock. -/
def lockGroups (cells : List ScratchCell) : List Nat :=
  cells.map fun scratch => (cells.map lock).idxOf scratch.lock

/-- Adds the scratch sheet unless it is there. It is looked for only until it has been found
or added once. -/
def ensureSheet (access : Access) (scratch : ScratchCell) : Client Unit := do
  if (← get).scratchReady then return ()
  let titles ← Client.sheetTitles access scratch.spreadsheet
  if !titles.contains scratch.sheet then
    Client.addSheet access scratch.spreadsheet scratch.sheet
  modify fun connection => { connection with scratchReady := true }

/-- Clears the scratch cell. -/
def clear (access : Access) (scratch : ScratchCell) : Client Unit :=
  Client.clear access scratch.spreadsheet scratch.range

/-- Writes a formula to the scratch cell and reads its value. -/
def writeAndRead (access : Access) (scratch : ScratchCell) (formula : Text) : Client Grid := do
  Client.writeOrFail access .writeFormula scratch.spreadsheet scratch.range [[.text formula]]
  Client.read access scratch.spreadsheet scratch.range unformattedRendering

/-- Clears the scratch cell, ignoring failure, and fails with the error that went before. -/
def clearAndFail (access : Access) (scratch : ScratchCell) (error : ClientError) :
    Client Grid := do
  tryCatch (scratch.clear access) fun _ => return ()
  throw error

/-- The first cell of a grid; an empty text if there is none. -/
def firstCell : Grid → Cell
  | (cell :: _) :: _ => cell
  | _ => .text []

/-- Computes a formula in the scratch cell. -/
def evaluate (access : Access) (scratch : ScratchCell) : Sandbox Connection ClientError :=
  fun formula => do
    scratch.ensureSheet access
    scratch.clear access
    let values ← tryCatch (scratch.writeAndRead access formula) (scratch.clearAndFail access)
    scratch.clear access
    return firstCell values

end ScratchCell

end Rowscript
