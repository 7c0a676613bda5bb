import Rowscript.Proofs.Failures
import Rowscript.Proofs.MappingRows

/-!
# Loading a mapping

A mapping is loaded in one pass: its rows are skipped, or read and sorted into columns and filters,
one after the other. This comes to the same as leaving the notes out, reading all other rows and
sorting what was read from them. The type of an instruction decides where it is put, and its
header decides of which type it is, so the rows can be told apart before they are read. If one
cannot be read, the first of them is reported either way.
-/

namespace Rowscript

/-- The rows of a mapping that are not skipped. -/
def loadedRows (mapping : List (Text × Text)) : List (Text × Text) :=
  mapping.filter fun row => !isSkipped row.1

/-- Whether a row has the header of a filter. -/
def hasFilterHeader (row : Text × Text) : Bool := Text.startsWith filterMarker (Text.trim row.1)

/-- The instruction of a column has the header of its row. -/
theorem header_of_readRule {headers : List Text} {header instruction : Text} {rule : OutputRule}
    (h : readRule headers header instruction = .ok (.output rule)) :
    rule.header = Text.trim header := by
  obtain ⟨o, hrule, -⟩ | ⟨name, filter, hfilter, -⟩ := readFrom_of_readRule h
  · rw [Instruction.output.inj hrule]
  · cases hfilter

namespace RuleSet

/-- A rule set consists of the instructions that were read from rows, one from each. Those of rows
with the header of a filter are its filters and the others its columns, both in the order of the
rows, and every column has the header of its row. -/
structure Sorts (rules : RuleSet) (rows : List (Text × Text)) (instructions : List Instruction) :
    Prop where
  length_eq : instructions.length = rows.length
  outputs_eq : rules.outputs.map .output =
    ((rows.zip instructions).filter fun read => !hasFilterHeader read.1).map Prod.snd
  filters_eq : rules.filters.map .filter =
    ((rows.zip instructions).filter fun read => hasFilterHeader read.1).map Prod.snd
  perm : (rules.outputs.map Instruction.output ++ rules.filters.map Instruction.filter).Perm
    instructions
  outputHeaders_eq : rules.outputHeaders =
    (rows.filter fun row => !hasFilterHeader row).map fun row => Text.trim row.1

namespace Sorts

variable {headers : List Text} {rules others : RuleSet} {rows : List (Text × Text)}
  {instructions : List Instruction}

/-- One more row in front adds the instruction that is read from it to the rules of its type. -/
theorem add (h : rules.Sorts rows instructions) {row : Text × Text} {i : Instruction}
    (hread : readRule headers row.1 row.2 = .ok i) :
    (rules.add i).Sorts (row :: rows) (i :: instructions) := by
  obtain ⟨hmarker, rule, rfl⟩ | ⟨hmarker, rule, rfl⟩ := kind_of_readRule hread
  · have hrow : hasFilterHeader row = true := hmarker
    exact
      { length_eq := congrArg Nat.succ h.length_eq
        outputs_eq := by simpa [RuleSet.add, hrow] using h.outputs_eq
        filters_eq := by simpa [RuleSet.add, hrow] using h.filters_eq
        perm := List.perm_middle.trans (h.perm.cons (.filter rule))
        outputHeaders_eq := by
          simpa [RuleSet.add, outputHeaders, hrow] using h.outputHeaders_eq }
  · have hrow : hasFilterHeader row = false := hmarker
    have hheader := header_of_readRule hread
    exact
      { length_eq := congrArg Nat.succ h.length_eq
        outputs_eq := by simpa [RuleSet.add, hrow] using h.outputs_eq
        filters_eq := by simpa [RuleSet.add, hrow] using h.filters_eq
        perm := by simpa [RuleSet.add] using h.perm
        outputHeaders_eq := by
          simpa [RuleSet.add, outputHeaders, hrow, hheader] using h.outputHeaders_eq }

/-- Instructions that have been read are sorted by the headers of their rows. -/
theorem ofInstructions (hread : readRules headers rows = .ok instructions) :
    (RuleSet.ofInstructions instructions).Sorts rows instructions := by
  induction mapM_eq_ok_iff.mp hread with
  | nil => exact ⟨rfl, rfl, rfl, .nil, rfl⟩
  | cons hrow hrest ih =>
    rw [ofInstructions_cons]
    exact (ih (mapM_eq_ok_iff.mpr hrest)).add hrow

/-- Rows and instructions leave only one rule set. -/
theorem unique (h : rules.Sorts rows instructions) (h' : others.Sorts rows instructions) :
    rules = others := by
  have houtputs : rules.outputs = others.outputs :=
    List.map_injective_iff.mpr (fun _ _ => Instruction.output.inj)
      (h.outputs_eq.trans h'.outputs_eq.symm)
  have hfilters : rules.filters = others.filters :=
    List.map_injective_iff.mpr (fun _ _ => Instruction.filter.inj)
      (h.filters_eq.trans h'.filters_eq.symm)
  exact congrArg₂ RuleSet.mk houtputs hfilters

end Sorts

/-- A mapping is loaded exactly when the rows that are not skipped can be read, and what is loaded
are the instructions that are read from them, sorted by their headers. When some row cannot be
read, loading the mapping and reading the rows both report the first one. -/
theorem load_sorts (headers : List Text) (mapping : List (Text × Text)) :
    ((∃ rules, load headers mapping = .ok rules) ↔
        ∃ instructions, readRules headers (loadedRows mapping) = .ok instructions) ∧
      (∀ rules, load headers mapping = .ok rules ↔
        ∃ instructions, readRules headers (loadedRows mapping) = .ok instructions ∧
          rules.Sorts (loadedRows mapping) instructions) ∧
      ∀ e, (load headers mapping = .error e ↔ FirstError headers mapping e) ∧
        (readRules headers (loadedRows mapping) = .error e ↔ FirstError headers mapping e) := by
  have hload : load headers mapping =
      (readRules headers (loadedRows mapping)).map RuleSet.ofInstructions :=
    load_eq headers mapping
  have herror : ∀ e, load headers mapping = .error e ↔
      readRules headers (loadedRows mapping) = .error e := by
    intro e
    rw [hload]
    cases readRules headers (loadedRows mapping) <;> simp [Except.map]
  refine ⟨?_, fun rules => ?_, fun e => ?_⟩
  · rw [hload]
    cases readRules headers (loadedRows mapping) <;> simp [Except.map]
  · refine load_eq_ok_iff.trans (exists_congr fun instructions => and_congr_right fun hread => ?_)
    constructor
    · rintro rfl
      exact .ofInstructions hread
    · exact fun hsorts => hsorts.unique (.ofInstructions hread)
  · exact ⟨load_eq_error_iff, (herror e).symm.trans load_eq_error_iff⟩

/-- A filter between two columns and a note before it. -/
example : (load ["N".toList] [("A".toList, "src[N]".toList), ("// old".toList, "src[".toList),
    (" _filter:f".toList, "src[N]".toList), ("B ".toList, "constant:x".toList)]).map
      (fun rules => (rules.outputHeaders, rules.filters.map FilterRule.name)) =
    .ok (["A".toList, "B".toList], ["f".toList]) := by
  decide +kernel

end RuleSet

end Rowscript
