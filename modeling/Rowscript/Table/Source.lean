import Rowscript.Row.Context

/-!
# Source tables

A source table has headers and rows of texts. It is read from a grid of cell values whose
first row is the header.
-/

namespace Rowscript

/-- A table of texts; rows may be shorter or longer than the header. -/
structure Source where
  headers : List Text
  rows : List (List Text)
  deriving DecidableEq, Repr

namespace Source

/-- Reads a table from a grid. Headers lose the blanks around them; missing cells below the
header are empty. -/
def ofGrid : Grid → Source
  | [] => ⟨[], []⟩
  | header :: rows =>
    ⟨header.map fun cell => Text.trim cell.plain, rows.map fun row => row.map Cell.plainOrEmpty⟩

/-- A row brought to the length of the header: filled with empty texts, or cut off. -/
def fit (source : Source) (row : List Text) : List Text :=
  let kept := row.take source.headers.length
  kept ++ List.replicate (source.headers.length - kept.length) []

/-- The values of a row by header. Of columns with the same header the last one counts. -/
def valuesOf (source : Source) (row : List Text) : Bindings Text :=
  (source.headers.zip (source.fit row)).reverse

end Source

/-- The first two cells of every row as texts, where a missing cell is empty. The first row
is left out if it is a header. -/
def columnPairs (skipHeader : Bool) (grid : Grid) : List (Text × Text) :=
  let rows := if skipHeader then grid.drop 1 else grid
  rows.map fun row =>
    ((row[0]?.getD Cell.missing).plainOrEmpty, (row[1]?.getD Cell.missing).plainOrEmpty)

end Rowscript
