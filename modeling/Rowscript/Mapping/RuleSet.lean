import Rowscript.Rule.Reading

/-!
# Rule sets

A mapping table is a list of headers with instructions. Rows without a header and rows
whose header begins with two slashes are notes and are skipped. The other rows become the
output columns, in order, and the filters, in order.
-/

namespace Rowscript

/-- The beginning of a note's header. -/
def noteMarker : Text := "//".toList

/-- Whether a row of the mapping with this header is skipped. -/
def isSkipped (header : Text) : Bool :=
  let trimmed := Text.trim header
  trimmed = [] || Text.startsWith noteMarker trimmed

/-- The output columns and the filters of a mapping. -/
structure RuleSet where
  outputs : List OutputRule
  filters : List FilterRule
  deriving DecidableEq, Repr

namespace RuleSet

/-- The headers of the output columns. -/
def outputHeaders (rules : RuleSet) : List Text := rules.outputs.map OutputRule.header

/-- The output columns and filters among instructions, each in their order. -/
def ofInstructions (instructions : List Instruction) : RuleSet :=
  ⟨instructions.filterMap Instruction.output?, instructions.filterMap Instruction.filter?⟩

/-- A rule set with one more instruction, behind the columns or behind the filters. -/
def push (rules : RuleSet) : Instruction → RuleSet
  | .output rule => { rules with outputs := rules.outputs ++ [rule] }
  | .filter rule => { rules with filters := rules.filters ++ [rule] }

/-- Reads the rows of a mapping table in order and adds them to a rule set. A row that is
skipped adds nothing. The first rule that cannot be read is reported. -/
def loadInto (headers : List Text) (rules : RuleSet) :
    List (Text × Text) → Except RuleError RuleSet
  | [] => return rules
  | (header, instruction) :: rest =>
    if isSkipped header then loadInto headers rules rest
    else do
      let i ← readRule headers header instruction
      loadInto headers (rules.push i) rest

/-- Reads a mapping table against the headers of the source table. -/
def load (headers : List Text) (mapping : List (Text × Text)) : Except RuleError RuleSet :=
  loadInto headers ⟨[], []⟩ mapping

end RuleSet

end Rowscript
