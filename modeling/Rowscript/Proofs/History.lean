import Rowscript.Proofs.Submissions

/-!
# The history of a run

A run keeps no more of a row than its cells, and those only if no filter rejects it. The
history of the run keeps what the cells came from: the context in which the row began, every
output column with the context it was computed in, and whether the row was kept. The run can
be read off its history, so what holds of every history holds of the run.
-/

namespace Rowscript

/-- An output column of a row after it has been computed. -/
structure ComputedColumn where
  rule : OutputRule
  /-- The context in which the column was computed. -/
  context : Context
  /-- What has come of it. -/
  resolved : Resolved

/-- The cell that is written for a column. -/
def ComputedColumn.cell (column : ComputedColumn) : Text := column.resolved.literal.display

/-- A row after it has been processed. -/
structure ProcessedRow where
  /-- The row of the source table. -/
  source : List Text
  /-- The context in which its processing began. -/
  context : Context
  /-- Its output columns, from left to right. -/
  columns : List ComputedColumn
  /-- Whether it passed all filters. -/
  kept : Bool

/-- The cells of a row. -/
def ProcessedRow.cells (row : ProcessedRow) : List Text := row.columns.map ComputedColumn.cell

/-- The context after columns have been computed one after the other. -/
def Context.after (ctx : Context) (columns : List ComputedColumn) : Context :=
  columns.foldl (fun ctx column => ctx.withOutput column.rule.header column.resolved.evaluated) ctx

/-- The rows of a history that were kept. -/
def keptRows (history : List ProcessedRow) : List ProcessedRow := history.filter ProcessedRow.kept

/-- What a run gives, read off its history. -/
def RuleSet.summary (rules : RuleSet) (history : List ProcessedRow) : Transformed where
  headers := rules.outputHeaders
  rows := (keptRows history).map ProcessedRow.cells
  rowsRead := history.length
  rowsFiltered := history.length - (keptRows history).length

section Histories

variable {σ ε : Type} {sandbox : Sandbox σ ε}

/-- Computes output columns from left to right. -/
def computeColumns (sandbox : Sandbox σ ε) (ctx : Context) :
    List OutputRule → Evaluation σ ε (List ComputedColumn)
  | [] => return []
  | rule :: rest => do
    let resolved ← rule.output.resolve sandbox ctx
    let columns ← computeColumns sandbox (ctx.withOutput rule.header resolved.evaluated) rest
    return ⟨rule, ctx, resolved⟩ :: columns

/-- Processes rows in order, where `kept` rows have been kept before. -/
def processHistory (sandbox : Sandbox σ ε) (source : Source) (rules : RuleSet) :
    Nat → List (List Text) → Evaluation σ ε (List ProcessedRow)
  | _, [] => return []
  | kept, row :: rest => do
    let ctx := rowContext source rules row (firstDataRow + kept)
    let columns ← computeColumns sandbox ctx rules.outputs
    let passed ← passesAll sandbox (ctx.after columns) rules.filters
    let history ← processHistory sandbox source rules (if passed then kept + 1 else kept) rest
    return ⟨row, ctx, columns, passed⟩ :: history

/-- The outputs of a row are its computed columns. -/
theorem evaluateOutputs_eq_map (ctx : Context) (outputs : List OutputRule) :
    evaluateOutputs sandbox ctx outputs =
      (fun columns => (ctx.after columns, columns.map ComputedColumn.cell)) <$>
        computeColumns sandbox ctx outputs := by
  induction outputs generalizing ctx with
  | nil => rfl
  | cons rule rest ih =>
    simp only [evaluateOutputs, computeColumns, ih, map_bind, bind_map_left, map_pure]
    rfl

/-- The rows of a run are the kept rows of its history. -/
theorem processRows_eq_map (source : Source) (rules : RuleSet) (kept : Nat)
    (rows : List (List Text)) :
    processRows sandbox source rules kept rows =
      (fun history => (keptRows history).map ProcessedRow.cells) <$>
        processHistory sandbox source rules kept rows := by
  induction rows generalizing kept with
  | nil => rfl
  | cons row rest ih =>
    rw [processRows_cons, processHistory]
    simp only [evaluateRow, evaluateOutputs_eq_map, bind_map_left, map_bind, bind_assoc, pure_bind]
    refine bind_congr fun columns => bind_congr fun passed => ?_
    cases passed <;> simp [ih, keptRows, ProcessedRow.cells]

/-- Columns that rules give one after the other, beginning in a context. -/
structure ComputedFrom (sandbox : Sandbox σ ε) (ctx : Context) (outputs : List OutputRule)
    (columns : List ComputedColumn) : Prop where
  /-- There is a column for every rule. -/
  rule_eq : columns.map ComputedColumn.rule = outputs
  /-- A column is computed after the ones on its left. -/
  context_eq : ∀ j column, columns[j]? = some column → column.context = ctx.after (columns.take j)
  /-- What has come of a column is what its rule gives in its context. -/
  resolve_eq : ∀ column ∈ columns, ∃ s s',
    outcome (column.rule.output.resolve sandbox column.context) s = (.ok column.resolved, s')

/-- One more column on the left of others that begin where it leads. -/
theorem ComputedFrom.cons {ctx : Context} {rule : OutputRule} {rest : List OutputRule}
    {resolved : Resolved} {columns : List ComputedColumn} {s s' : σ}
    (hresolved : outcome (rule.output.resolve sandbox ctx) s = (.ok resolved, s'))
    (hrest : ComputedFrom sandbox (ctx.withOutput rule.header resolved.evaluated) rest columns) :
    ComputedFrom sandbox ctx (rule :: rest) (⟨rule, ctx, resolved⟩ :: columns) where
  rule_eq := by rw [List.map_cons, hrest.rule_eq]
  context_eq j column hcolumn := by
    cases j with
    | zero =>
      obtain rfl := Option.some.inj hcolumn
      rfl
    | succ j => exact hrest.context_eq j column hcolumn
  resolve_eq column hcolumn := by
    rcases List.mem_cons.mp hcolumn with rfl | hcolumn
    · exact ⟨s, s', hresolved⟩
    · exact hrest.resolve_eq column hcolumn

/-- Columns are computed one after the other. -/
theorem satisfies_computeColumns (ctx : Context) (outputs : List OutputRule) :
    Satisfies (fun _ => True) (ComputedFrom sandbox ctx outputs) (fun _ _ => True)
      (computeColumns sandbox ctx outputs) := by
  induction outputs generalizing ctx with
  | nil => exact .pure ⟨rfl, by simp, by simp⟩
  | cons rule rest ih =>
    refine (Satisfies.self _).bind fun resolved hresolved => ?_
    obtain ⟨s, s', hresolved⟩ := hresolved
    exact (ih _).bind fun columns hcolumns => .pure (.cons hresolved hcolumns)

/-- A history of rows, where some rows have been kept before. -/
structure ProcessedFrom (sandbox : Sandbox σ ε) (source : Source) (rules : RuleSet) (kept : Nat)
    (rows : List (List Text)) (history : List ProcessedRow) : Prop where
  /-- There is a processed row for every row. -/
  source_eq : history.map ProcessedRow.source = rows
  /-- The columns of a row begin in its context. -/
  columns : ∀ row ∈ history, ComputedFrom sandbox row.context rules.outputs row.columns
  /-- A row that is kept has been processed for the output row that comes next. -/
  context_eq : ∀ k row, (keptRows history)[k]? = some row →
    row.context = rowContext source rules row.source (firstDataRow + (kept + k))

/-- The columns of a row that is kept begin in its context. -/
theorem ProcessedFrom.columns_of_kept {source : Source} {rules : RuleSet} {kept : Nat}
    {rows : List (List Text)} {history : List ProcessedRow}
    (h : ProcessedFrom sandbox source rules kept rows history) {k : Nat} {row : ProcessedRow}
    (hrow : (keptRows history)[k]? = some row) :
    ComputedFrom sandbox row.context rules.outputs row.columns :=
  h.columns row (List.mem_of_mem_filter (List.mem_of_getElem? hrow))

/-- One more row before others that begin where it leads. -/
theorem ProcessedFrom.cons {source : Source} {rules : RuleSet} {kept : Nat} {row : List Text}
    {rest : List (List Text)} {columns : List ComputedColumn} {passed : Bool}
    {history : List ProcessedRow}
    (hcolumns : ComputedFrom sandbox (rowContext source rules row (firstDataRow + kept))
      rules.outputs columns)
    (hrest : ProcessedFrom sandbox source rules (if passed then kept + 1 else kept) rest history) :
    ProcessedFrom sandbox source rules kept (row :: rest)
      (⟨row, rowContext source rules row (firstDataRow + kept), columns, passed⟩ :: history) where
  source_eq := by rw [List.map_cons, hrest.source_eq]
  columns processed hprocessed := by
    rcases List.mem_cons.mp hprocessed with rfl | hprocessed
    · exact hcolumns
    · exact hrest.columns processed hprocessed
  context_eq k processed hprocessed := by
    cases passed with
    | false => exact hrest.context_eq k processed hprocessed
    | true =>
      cases k with
      | zero =>
        obtain rfl := Option.some.inj hprocessed
        rfl
      | succ k =>
        rw [hrest.context_eq k processed hprocessed, if_pos rfl, Nat.add_assoc kept, Nat.add_comm 1]

/-- Rows are processed one after the other. -/
theorem satisfies_processHistory (source : Source) (rules : RuleSet) (kept : Nat)
    (rows : List (List Text)) :
    Satisfies (fun _ => True) (ProcessedFrom sandbox source rules kept rows) (fun _ _ => True)
      (processHistory sandbox source rules kept rows) := by
  induction rows generalizing kept with
  | nil => exact .pure ⟨rfl, by simp, by simp [keptRows]⟩
  | cons row rest ih =>
    refine (satisfies_computeColumns _ _).bind fun columns hcolumns => ?_
    refine (Satisfies.trivial _).bind fun passed _ => ?_
    exact (ih _).bind fun history hhistory => .pure (.cons hcolumns hhistory)

/-- A run is read off its history. -/
theorem RuleSet.run_eq_map (rules : RuleSet) (source : Source) :
    rules.run sandbox source =
      rules.summary <$> processHistory sandbox source rules 0 source.rows := by
  rw [run, processRows_eq_map, bind_map_left, ← bind_pure_comp]
  refine (satisfies_processHistory source rules 0 source.rows).bind_congr ?_
  intro history hhistory
  have hlength : source.rows.length = history.length := by
    rw [← hhistory.source_eq, List.length_map]
  rw [hlength, List.length_map]
  rfl

/-- A sandbox that has a value for every formula. -/
def Sandbox.Total (sandbox : Sandbox σ ε) : Prop :=
  ∀ formula s, ∃ value s', outcome (sandbox formula) s = (.ok value, s')

/-- A sandbox that answers every formula by a function and keeps its state. -/
def Sandbox.answering (answer : Text → Cell) : Sandbox σ ε := fun formula => pure (answer formula)

/-- A function has a value for every formula. -/
theorem Sandbox.total_answering (answer : Text → Cell) :
    (answering answer : Sandbox σ ε).Total :=
  fun formula s => ⟨answer formula, s, rfl⟩

/-- No submission to a sandbox with a value for every formula fails. -/
theorem Sandbox.Total.safe (htotal : sandbox.Total) (submission : Submission) :
    submission.Safe sandbox (fun _ => True) (fun _ _ => False) := by
  intro ctx s _
  obtain ⟨value, s', hvalue⟩ := htotal (submission.text ctx) s
  rw [submit, outcome_adapt, hvalue]
  exact ⟨trivial, trivial⟩

/-- With a sandbox that has a value for every formula, a mapping that is loaded transforms
every table. -/
theorem RuleSet.exists_history_of_load {headers : List Text} {mapping : List (Text × Text)}
    {rules : RuleSet} (hload : load headers mapping = .ok rules) (htotal : sandbox.Total)
    (source : Source) (s : σ) :
    ∃ history s', outcome (processHistory sandbox source rules 0 source.rows) s =
        (.ok history, s') ∧
      outcome (rules.run sandbox source) s = (.ok (rules.summary history), s') ∧
      ProcessedFrom sandbox source rules 0 source.rows history := by
  have hrun := satisfies_run (hasOperators_of_load hload)
    (fun submission _ => htotal.safe submission) source s trivial
  have hhistory : Satisfies _ (ProcessedFrom sandbox source rules 0 source.rows) _ _ :=
    satisfies_processHistory source rules 0 source.rows
  have hhistory := hhistory s trivial
  rw [run_eq_map, outcome_map] at hrun ⊢
  rcases hout : outcome (processHistory sandbox source rules 0 source.rows) s with ⟨e | history, s'⟩
  · rw [hout] at hrun
    exact absurd hrun.2 id
  · rw [hout] at hhistory
    exact ⟨history, s', rfl, rfl, hhistory.2⟩

end Histories

end Rowscript
