import Rowscript.Rule.Lexeme

/-!
# Instructions

A rule of the mapping table is read into an instruction: it computes an output column,
or it filters rows. An output is a column as it is, a fixed text, a formula, or an
expression; a filter is one formula, or alternatives of which one has to hold.
-/

namespace Rowscript

/-- One side of a comparison. -/
inductive Operand where
  | reference (r : Reference)
  | string (value : Text)
  | number (value : Binary64)
  | formula (template : Text)
  | text (value : Text)
  /-- Several tokens, resolved together as the template they were written as. -/
  | compound (tokens : List Token) (raw : Text)
  deriving DecidableEq, Repr

/-- A condition of a filter. A comparison keeps the symbol of its operator, which is looked
up when the condition is evaluated. -/
inductive Condition where
  | comparison (left : Operand) (symbol : Text) (right : Operand)
  | formula (template : Text)
  deriving DecidableEq, Repr

/-- How an output column is computed. -/
inductive Output where
  /-- The value of a source column. -/
  | direct (column : Text)
  /-- A fixed text. -/
  | constant (value : Text)
  /-- A formula with references. -/
  | formula (template : Text)
  /-- Text with references; the flag says whether some token is or holds a reference. -/
  | expression (tokens : List Token) (raw : Text) (hasReference : Bool)
  deriving DecidableEq, Repr

/-- A rule for an output column. -/
structure OutputRule where
  header : Text
  output : Output
  deriving DecidableEq, Repr

/-- What a filter tests. -/
inductive FilterTest where
  /-- The whole filter is one formula. -/
  | formula (template : Text)
  /-- At least one of the conditions has to hold. -/
  | anyOf (conditions : List Condition)
  deriving DecidableEq, Repr

/-- A rule that keeps or drops rows. An inactive filter is a note: it keeps every row. -/
structure FilterRule where
  name : Text
  /-- The whole instruction as it was written. -/
  raw : Text
  /-- Whether the filter is evaluated. -/
  active : Bool
  test : FilterTest
  deriving DecidableEq, Repr

/-- A rule that has been read. -/
inductive Instruction where
  | output (rule : OutputRule)
  | filter (rule : FilterRule)
  deriving DecidableEq, Repr

/-- The output rule of an instruction, if it is one. -/
def Instruction.output? : Instruction → Option OutputRule
  | .output rule => some rule
  | .filter _ => none

/-- The filter of an instruction, if it is one. -/
def Instruction.filter? : Instruction → Option FilterRule
  | .output _ => none
  | .filter rule => some rule

end Rowscript
