import Rowscript.Mapping.RuleSet
import Rowscript.Row.Evaluation
import Rowscript.Table.Address
import Rowscript.Table.Source

/-!
# Transforming a table

Every row of the source table is processed by itself, in order: its output columns are
computed from left to right, and then the filters decide whether it is kept. The rows that
are kept follow one another in the output, below its header.
-/

namespace Rowscript

/-- The result of a transformation. -/
structure Transformed where
  /-- The headers of the output columns. -/
  headers : List Text
  /-- The rows that are kept. -/
  rows : List (List Text)
  /-- How many source rows there were. -/
  rowsRead : Nat
  /-- How many of them a filter rejected. -/
  rowsFiltered : Nat
  deriving DecidableEq, Repr

/-- The output sheet of a transformation: the header row and the rows below it. -/
def Transformed.values (t : Transformed) : List (List Text) := t.headers :: t.rows

/-- The row of the output sheet in which the first data row is written. -/
def firstDataRow : Nat := 2

/-- The addresses of the cells of an output row by header. Of columns with the same header
the last one counts. -/
def RuleSet.addresses (rules : RuleSet) (outputRow : Nat) : Bindings Text :=
  (rules.outputHeaders.mapIdx fun index header => (header, cellAddress index outputRow)).reverse

/-- The context in which the processing of a row begins. -/
def rowContext (source : Source) (rules : RuleSet) (row : List Text) (outputRow : Nat) :
    Context where
  source := (source.valuesOf row).map fun (header, value) => (header, .text value)
  outputs := []
  addresses := rules.addresses outputRow
  style := .display

variable {σ ε : Type}

/-- What has come of a row. -/
structure RowOutcome (ε : Type) where
  /-- The outputs that were computed, the latest first. -/
  outputs : Bindings Cell
  /-- The cells of the row, which are missing if a filter rejects it, or the error that ended
  its processing. -/
  cells : Except (EvaluationError ε) (Option (List Text))

variable [Lookup ε]

/-- Computes the output columns of a row from left to right. Each sees the ones before it.
The context after the last computed column is given with the cells or the error. -/
def computeOutputs (sandbox : Sandbox σ ε) (ctx : Context) :
    List OutputRule → StateM σ (Context × Except (EvaluationError ε) (List Text))
  | [] => return (ctx, .ok [])
  | rule :: rest => do
    match ← (rule.output.resolve sandbox ctx).run with
    | .error e => return (ctx, .error e)
    | .ok resolved =>
      let (last, cells) ←
        computeOutputs sandbox (ctx.withOutput rule.header resolved.evaluated) rest
      return (last, cells.map (resolved.literal.display :: ·))

/-- Whether a row passes all filters; the ones after the first that rejects it are not
evaluated. -/
def passesAll (sandbox : Sandbox σ ε) (ctx : Context) : List FilterRule → Evaluation σ ε Bool
  | [] => return true
  | rule :: rest => do
    if ← rule.passes sandbox ctx then passesAll sandbox ctx rest else return false

/-- Processes a row in a context: first the output columns, then the filters. -/
def processRow (sandbox : Sandbox σ ε) (rules : RuleSet) (ctx : Context) :
    StateM σ (RowOutcome ε) := do
  let (last, cells) ← computeOutputs sandbox ctx rules.outputs
  match cells with
  | .error e => return ⟨last.outputs, .error e⟩
  | .ok cells =>
    let passed ← (passesAll sandbox last rules.filters).run
    return ⟨last.outputs, passed.map fun passed => if passed then some cells else none⟩

/-- Processes rows in order, where `kept` rows have been kept before, and gives the rows that
are kept. The first error ends the processing. -/
def processRows (sandbox : Sandbox σ ε) (source : Source) (rules : RuleSet) :
    Nat → List (List Text) → Evaluation σ ε (List (List Text))
  | _, [] => return []
  | kept, row :: rest => do
    let outcome ←
      processRow sandbox rules (rowContext source rules row (firstDataRow + kept))
    match ← ExceptT.mk (pure outcome.cells) with
    | some cells => return cells :: (← processRows sandbox source rules (kept + 1) rest)
    | none => processRows sandbox source rules kept rest

/-- Transforms a source table by a rule set. -/
def RuleSet.run (sandbox : Sandbox σ ε) (rules : RuleSet) (source : Source) :
    Evaluation σ ε Transformed := do
  let rows ← processRows sandbox source rules 0 source.rows
  return ⟨rules.outputHeaders, rows, source.rows.length, source.rows.length - rows.length⟩

/-- Why a transformation fails: a rule cannot be read, or a row cannot be processed. -/
inductive TransformError (ε : Type) where
  | rule (cause : RuleError)
  | evaluation (cause : EvaluationError ε)
  deriving DecidableEq, Repr

/-- Reads a mapping and transforms a source table by it. Nothing is submitted to the sandbox
unless all rules can be read. -/
def transform (sandbox : Sandbox σ ε) (source : Source) (mapping : List (Text × Text)) :
    ExceptT (TransformError ε) (StateM σ) Transformed :=
  match RuleSet.load source.headers mapping with
  | .error e => throw (.rule e)
  | .ok rules => ExceptT.adapt TransformError.evaluation (rules.run sandbox source)

end Rowscript
