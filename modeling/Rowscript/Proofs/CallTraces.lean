import Rowscript.Proofs.History

/-!
# Which calls a run makes

A run calls the sandbox while it computes output columns and while it decides filters, and the
answers of earlier calls may change all later ones. For every construct of a rule this file says
which calls it takes to come to a value: the calls with their answers are given, and no state is
looked at. The calls of a run are then those of its rows one after the other, whatever the sandbox
does with its state.
-/

namespace Rowscript

/-- A call of the sandbox: the text that is submitted, and the answer to it. -/
structure SandboxCall where
  formula : Text
  answer : Cell
  deriving DecidableEq, Repr

/-- The call for a formula with references, which are replaced by literals. -/
def Context.call (ctx : Context) (template : Text) (answer : Cell) : SandboxCall :=
  ⟨ctx.forFormula.resolve false template, answer⟩

section Rules

/-- The calls that an operand takes, with its value: one call for a formula. -/
inductive Operand.Takes (ctx : Context) : Operand → List SandboxCall → Cell → Prop where
  | reference (r : Reference) : Takes ctx (.reference r) [] (.text (ctx.substitute r))
  | string (value : Text) : Takes ctx (.string value) [] (.text value)
  | number (value : Binary64) : Takes ctx (.number value) [] (.number value)
  | text (value : Text) : Takes ctx (.text value) [] (.text value)
  | formula (template : Text) (answer : Cell) :
      Takes ctx (.formula template) [ctx.call template answer] (.bool answer.isTrue)
  | compound (tokens : List Token) (raw : Text) :
      Takes ctx (.compound tokens raw) [] (.text (ctx.resolve false raw))

/-- The calls that a condition takes, with its truth. A comparison takes those of its left side
before those of its right side. -/
inductive Condition.Takes (ctx : Context) : Condition → List SandboxCall → Bool → Prop where
  | formula (template : Text) (answer : Cell) :
      Takes ctx (.formula template) [ctx.call template answer] answer.isTrue
  | comparison {left right : Operand} {symbol : Text} {op : Operator} {x y : Cell} {holds : Bool}
      {first second : List SandboxCall} (hleft : left.Takes ctx first x)
      (hright : right.Takes ctx second y) (hop : Operator.ofSymbol? symbol = some op)
      (hholds : op.holds x y = .ok holds) :
      Takes ctx (.comparison left symbol right) (first ++ second) holds

/-- The calls that alternative conditions take, with whether one of them holds. None is made for
the conditions after the first that holds. -/
inductive ConditionsTake (ctx : Context) : List Condition → List SandboxCall → Bool → Prop where
  | none : ConditionsTake ctx [] [] false
  | holds {c : Condition} {rest : List Condition} {calls : List SandboxCall}
      (h : c.Takes ctx calls true) : ConditionsTake ctx (c :: rest) calls true
  | fails {c : Condition} {rest : List Condition} {calls more : List SandboxCall} {holds : Bool}
      (h : c.Takes ctx calls false) (hrest : ConditionsTake ctx rest more holds) :
      ConditionsTake ctx (c :: rest) (calls ++ more) holds

/-- The calls that a filter takes, with whether a row passes it. A note takes none. -/
inductive FilterRule.Takes (ctx : Context) (rule : FilterRule) :
    List SandboxCall → Bool → Prop where
  | note (h : rule.active = false) : Takes ctx rule [] true
  | formula {template : Text} (hactive : rule.active = true)
      (htest : rule.test = .formula template) (answer : Cell) :
      Takes ctx rule [ctx.call template answer] answer.isTrue
  | anyOf {conditions : List Condition} {calls : List SandboxCall} {passed : Bool}
      (hactive : rule.active = true) (htest : rule.test = .anyOf conditions)
      (h : ConditionsTake ctx conditions calls passed) : Takes ctx rule calls passed

/-- The calls that filters take, with whether a row passes all of them. None is made for the
filters after the first that rejects the row. -/
inductive FiltersTake (ctx : Context) : List FilterRule → List SandboxCall → Bool → Prop where
  | none : FiltersTake ctx [] [] true
  | rejected {rule : FilterRule} {rest : List FilterRule} {calls : List SandboxCall}
      (h : rule.Takes ctx calls false) : FiltersTake ctx (rule :: rest) calls false
  | passed {rule : FilterRule} {rest : List FilterRule} {calls more : List SandboxCall}
      {passed : Bool} (h : rule.Takes ctx calls true) (hrest : FiltersTake ctx rest more passed) :
      FiltersTake ctx (rule :: rest) (calls ++ more) passed

/-- Whether an output column is computed by the sandbox: it is a formula, or an expression that
begins with an equals sign. -/
def Output.isComputed : Output → Bool
  | formula _ => true
  | expression _ raw _ => raw.head? = some '='
  | _ => false

/-- The calls that an output column takes, with what comes of it: one call if it is computed by
the sandbox. -/
inductive Output.Takes (ctx : Context) : Output → List SandboxCall → Resolved → Prop where
  | direct (column : Text) :
      Takes ctx (.direct column) [] (.same (ctx.value ⟨.source, column⟩))
  | constant (value : Text) : Takes ctx (.constant value) [] (.same (.text value))
  | formula (template : Text) (answer : Cell) :
      Takes ctx (.formula template) [ctx.call template answer]
        ⟨.text (ctx.forFormula.resolve true template), answer⟩
  | template (tokens : List Token) {raw : Text} (h : raw.head? = some '=') (answer : Cell) :
      Takes ctx (.expression tokens raw true) [ctx.call raw answer]
        ⟨.text (ctx.forFormula.resolve true raw), answer⟩
  | verbatim (tokens : List Token) {raw : Text} (h : raw.head? = some '=') (answer : Cell) :
      Takes ctx (.expression tokens raw false) [⟨raw, answer⟩] ⟨.text raw, answer⟩
  | shown (tokens : List Token) {raw : Text} (h : raw.head? ≠ some '=') (hasReference : Bool) :
      Takes ctx (.expression tokens raw hasReference) []
        (.same (.text (ctx.forDisplay.resolve false raw)))

/-- The calls that output columns take from left to right, with their cells and the context after
the last of them. Each column sees the ones before it. -/
inductive OutputsTake :
    Context → List OutputRule → List SandboxCall → List Text → Context → Prop where
  | none (ctx : Context) : OutputsTake ctx [] [] [] ctx
  | cons {ctx last : Context} {rule : OutputRule} {rest : List OutputRule}
      {calls more : List SandboxCall} {resolved : Resolved} {cells : List Text}
      (h : rule.output.Takes ctx calls resolved)
      (hrest : OutputsTake (ctx.withOutput rule.header resolved.evaluated) rest more cells last) :
      OutputsTake ctx (rule :: rest) (calls ++ more) (resolved.literal.display :: cells) last

/-- An output column takes one call if it is computed by the sandbox, and otherwise none. -/
theorem Output.Takes.length_eq {ctx : Context} {output : Output} {calls : List SandboxCall}
    {resolved : Resolved} (h : output.Takes ctx calls resolved) :
    calls.length = if output.isComputed then 1 else 0 := by
  cases h <;> simp [isComputed, *]

/-- Output columns take as many calls as there are columns computed by the sandbox, and give one
cell each. -/
theorem OutputsTake.length_eq {ctx last : Context} {outputs : List OutputRule}
    {calls : List SandboxCall} {cells : List Text} (h : OutputsTake ctx outputs calls cells last) :
    calls.length = outputs.countP (fun rule => rule.output.isComputed) ∧
      cells.length = outputs.length := by
  induction h with
  | none => exact ⟨rfl, rfl⟩
  | @cons _ _ rule _ _ _ _ _ h _ ih =>
    rw [List.length_append, h.length_eq, ih.1, List.countP_cons, List.length_cons, ih.2]
    exact ⟨Nat.add_comm _ _, rfl⟩

end Rules

/-- A row of a run with its calls. -/
structure TracedRow where
  /-- The row of the source table. -/
  source : List Text
  /-- The calls of its output columns. -/
  outputCalls : List SandboxCall
  /-- The calls of the filters. -/
  filterCalls : List SandboxCall
  /-- The cells of its output columns. -/
  cells : List Text
  /-- Whether it passed all filters. -/
  kept : Bool

/-- The calls of a row: first those of its output columns, then those of the filters. -/
def TracedRow.calls (row : TracedRow) : List SandboxCall := row.outputCalls ++ row.filterCalls

/-- A row that is processed in a context takes the calls: its outputs do, and in the context after
them the filters. -/
def TracedRow.Follows (rules : RuleSet) (ctx : Context) (row : TracedRow) : Prop :=
  ∃ last, OutputsTake ctx rules.outputs row.outputCalls row.cells last ∧
    FiltersTake last rules.filters row.filterCalls row.kept

/-- Rows are visited one after the other, each for the output row that comes next, where `kept`
rows have been kept before. -/
inductive RuleSet.Visits (source : Source) (rules : RuleSet) :
    Nat → List (List Text) → List TracedRow → Prop where
  | none (kept : Nat) : Visits source rules kept [] []
  | cons {kept : Nat} {row : TracedRow} {rest : List (List Text)} {more : List TracedRow}
      (hrow : row.Follows rules (rowContext source rules row.source (firstDataRow + kept)))
      (hrest : Visits source rules (if row.kept then kept + 1 else kept) rest more) :
      Visits source rules kept (row.source :: rest) (row :: more)

/-- The calls of rows, one row after the other. -/
def traceCalls (trace : List TracedRow) : List SandboxCall := trace.flatMap TracedRow.calls

/-- The cells of the rows that are kept. -/
def traceCells (trace : List TracedRow) : List (List Text) :=
  (trace.filter TracedRow.kept).map TracedRow.cells

/-- What a run reports that has visited the rows of a table. -/
def RuleSet.report (rules : RuleSet) (source : Source) (trace : List TracedRow) : Transformed :=
  ⟨rules.outputHeaders, traceCells trace, source.rows.length,
    source.rows.length - (traceCells trace).length⟩

/-- Every row is visited once, in order. -/
theorem RuleSet.Visits.source_eq {source : Source} {rules : RuleSet} {kept : Nat}
    {rows : List (List Text)} {trace : List TracedRow} (h : rules.Visits source kept rows trace) :
    trace.map TracedRow.source = rows := by
  induction h with
  | none => rfl
  | cons _ _ ih => rw [List.map_cons, ih]

/-- Every row follows the rules in some context. -/
theorem RuleSet.Visits.exists_follows {source : Source} {rules : RuleSet} {kept : Nat}
    {rows : List (List Text)} {trace : List TracedRow} (h : rules.Visits source kept rows trace) :
    ∀ row ∈ trace, ∃ ctx, row.Follows rules ctx := by
  induction h with
  | none => simp
  | cons hrow _ ih => exact List.forall_mem_cons.mpr ⟨⟨_, hrow⟩, ih⟩

/-- What a run reports of its rows. -/
structure Accounted (rules : RuleSet) (source : Source) (trace : List TracedRow)
    (t : Transformed) : Prop where
  headers_eq : t.headers = rules.outputHeaders
  /-- The rows of the output are the cells of the rows that are kept, in order. -/
  rows_eq : t.rows = traceCells trace
  rowsRead_eq : t.rowsRead = source.rows.length
  rowsFiltered_eq : t.rowsFiltered = (trace.filter fun row => !row.kept).length
  /-- Every row that is read is kept or filtered. -/
  rowsRead_eq_add : t.rowsRead = t.rows.length + t.rowsFiltered
  /-- Every row of the output has as many cells as there are headers. -/
  length_eq : ∀ row ∈ t.rows, row.length = t.headers.length
  /-- Of every row, the output columns that are computed by the sandbox take one call each. -/
  outputCalls_eq : ∀ row ∈ trace,
    row.outputCalls.length = rules.outputs.countP fun rule => rule.output.isComputed

/-- The report of a run accounts for all rows. -/
theorem RuleSet.Visits.accounted {source : Source} {rules : RuleSet} {trace : List TracedRow}
    (h : rules.Visits source 0 source.rows trace) :
    Accounted rules source trace (rules.report source trace) := by
  have hlength : source.rows.length = (traceCells trace).length +
      (trace.filter fun row => !row.kept).length := by
    rw [← h.source_eq, List.length_map, traceCells, List.length_map]
    exact List.length_eq_length_filter_add TracedRow.kept
  have hfollows := h.exists_follows
  have hfiltered : (rules.report source trace).rowsFiltered =
      source.rows.length - (traceCells trace).length := rfl
  have hadd : source.rows.length =
      (traceCells trace).length + (rules.report source trace).rowsFiltered := by
    omega
  refine ⟨rfl, rfl, rfl, by omega, hadd, ?_, ?_⟩
  · intro cells hcells
    obtain ⟨row, hrow, rfl⟩ := List.mem_map.mp hcells
    obtain ⟨ctx, last, houtputs, -⟩ := hfollows row (List.mem_of_mem_filter hrow)
    rw [houtputs.length_eq.2]
    exact (List.length_map _).symm
  · intro row hrow
    obtain ⟨ctx, last, houtputs, -⟩ := hfollows row hrow
    exact houtputs.length_eq.1

section Answers

variable {σ ε : Type}

/-- From one state to another a sandbox gives the answers of calls, one after the other. -/
inductive Sandbox.Answers (sandbox : Sandbox σ ε) : σ → List SandboxCall → σ → Prop where
  | none (s : σ) : Answers sandbox s [] s
  | cons {s t s' : σ} {call : SandboxCall} {rest : List SandboxCall}
      (h : outcome (sandbox call.formula) s = (.ok call.answer, t))
      (hrest : Answers sandbox t rest s') : Answers sandbox s (call :: rest) s'

namespace Sandbox.Answers

variable {sandbox : Sandbox σ ε} {s t s' : σ} {calls more : List SandboxCall}

/-- Calls are continued by calls from the state that they lead to. -/
theorem append (h : sandbox.Answers s calls t) (hmore : sandbox.Answers t more s') :
    sandbox.Answers s (calls ++ more) s' := by
  induction h with
  | none => exact hmore
  | cons hcall _ ih => exact .cons hcall (ih hmore)

/-- No calls lead to no other state. -/
theorem eq_of_nil (h : sandbox.Answers s [] s') : s' = s := by
  cases h
  rfl

/-- Between calls and others there is a state. -/
theorem of_append (h : sandbox.Answers s (calls ++ more) s') :
    ∃ t, sandbox.Answers s calls t ∧ sandbox.Answers t more s' := by
  induction calls generalizing s with
  | nil => exact ⟨s, .none s, h⟩
  | cons call rest ih =>
    cases h with
    | cons hcall hrest =>
      obtain ⟨t, hrest, hmore⟩ := ih hrest
      exact ⟨t, .cons hcall hrest, hmore⟩

/-- A text that is submitted gets the answer of its call. -/
theorem outcome_submit {formula : Text} {answer : Cell}
    (h : sandbox.Answers s [⟨formula, answer⟩] s') :
    outcome (submit sandbox formula) s = (.ok answer, s') := by
  cases h with
  | cons hcall hrest =>
    obtain rfl := hrest.eq_of_nil
    exact outcome_adapt_eq_ok_iff.mpr hcall

/-- A sandbox that notes texts gives the same answers, and notes those of the calls. -/
theorem recorded (h : sandbox.Answers s calls s') (before : List Text) :
    sandbox.recorded.Answers (s, before) calls
      (s', (calls.map SandboxCall.formula).reverse ++ before) := by
  induction h generalizing before with
  | none => exact .none _
  | @cons _ _ _ call _ hcall _ ih =>
    rw [List.map_cons, List.reverse_cons, List.append_assoc]
    exact .cons (by rw [outcome_recorded, hcall]) (ih (call.formula :: before))

/-- The texts of calls and the first state determine the answers. -/
theorem unique {t' : σ} (h : sandbox.Answers s calls t) (hmore : sandbox.Answers s more t')
    (htexts : calls.map SandboxCall.formula = more.map SandboxCall.formula) : calls = more := by
  induction h generalizing more with
  | none => exact (List.map_eq_nil_iff.mp htexts.symm).symm
  | @cons _ _ _ call _ hcall _ ih =>
    cases hmore with
    | none => simp at htexts
    | @cons _ _ _ other _ hother hrest =>
      obtain ⟨htext, hmore⟩ := List.cons.inj htexts
      rw [htext, hother] at hcall
      obtain ⟨hanswer, rfl⟩ := Prod.mk.inj hcall
      obtain rfl : call = other := by
        cases call
        cases other
        simp_all
      rw [ih hrest hmore]

end Sandbox.Answers

end Answers

/-! ## What calls lead to

If the sandbox gives the answers of the calls that a construct takes, its evaluation comes to the
value that goes with them. -/

section Outcomes

variable {σ ε : Type} {sandbox : Sandbox σ ε} {ctx : Context} {s s' : σ}
  {calls : List SandboxCall}

/-- A formula has the answer to its call as its value. -/
theorem outcome_evaluateFormula {template : Text} {answer : Cell}
    (hanswers : sandbox.Answers s [ctx.call template answer] s') :
    outcome (evaluateFormula sandbox ctx template) s = (.ok answer, s') := by
  rw [evaluateFormula_eq]
  exact hanswers.outcome_submit

/-- A formula column is written with addresses and has the answer to its call as its value. -/
theorem outcome_resolveFormula_of_answers {template : Text} {answer : Cell}
    (hanswers : sandbox.Answers s [ctx.call template answer] s') :
    outcome (resolveFormula sandbox ctx template) s =
      (.ok ⟨.text (ctx.forFormula.resolve true template), answer⟩, s') := by
  rw [resolveFormula_eq, outcome_bind, outcome_evaluateFormula hanswers]
  rfl

/-- An operand has the value that goes with its calls. -/
theorem Operand.Takes.outcome_eq {operand : Operand} {value : Cell}
    (h : operand.Takes ctx calls value) (hanswers : sandbox.Answers s calls s') :
    outcome (operand.evaluate sandbox ctx) s = (.ok value, s') := by
  cases h with
  | formula template answer =>
    rw [Operand.evaluate, outcome_bind, outcome_evaluateFormula hanswers]
    rfl
  | reference r =>
    obtain rfl := hanswers.eq_of_nil
    rw [Operand.evaluate_reference]
    rfl
  | compound tokens raw =>
    obtain rfl := hanswers.eq_of_nil
    rw [Operand.evaluate_compound]
    rfl
  | _ =>
    obtain rfl := hanswers.eq_of_nil
    rfl

/-- A condition is decided as goes with its calls. -/
theorem Condition.Takes.outcome_eq {c : Condition} {holds : Bool} (h : c.Takes ctx calls holds)
    (hanswers : sandbox.Answers s calls s') :
    outcome (c.evaluate sandbox ctx) s = (.ok holds, s') := by
  cases h with
  | formula template answer =>
    rw [Condition.evaluate, outcome_bind, outcome_evaluateFormula hanswers]
    rfl
  | comparison hleft hright hop hholds =>
    obtain ⟨t, hfirst, hsecond⟩ := hanswers.of_append
    simp only [Condition.evaluate, hop, outcome_bind, hleft.outcome_eq hfirst,
      hright.outcome_eq hsecond, Operator.evaluate, hholds]
    rfl

/-- Alternative conditions are tried as goes with their calls. -/
theorem ConditionsTake.outcome_eq {conditions : List Condition} {holds : Bool}
    (h : ConditionsTake ctx conditions calls holds) (hanswers : sandbox.Answers s calls s') :
    outcome (anyHolds sandbox ctx conditions) s = (.ok holds, s') := by
  induction h generalizing s with
  | none =>
    obtain rfl := hanswers.eq_of_nil
    rfl
  | holds hc =>
    rw [anyHolds, outcome_bind, hc.outcome_eq hanswers]
    rfl
  | fails hc _ ih =>
    obtain ⟨t, hfirst, hsecond⟩ := hanswers.of_append
    rw [anyHolds, outcome_bind, hc.outcome_eq hfirst]
    exact ih hsecond

/-- A filter is decided as goes with its calls. -/
theorem FilterRule.Takes.outcome_eq {rule : FilterRule} {passed : Bool}
    (h : rule.Takes ctx calls passed) (hanswers : sandbox.Answers s calls s') :
    outcome (rule.passes sandbox ctx) s = (.ok passed, s') := by
  cases h with
  | note hactive =>
    obtain rfl := hanswers.eq_of_nil
    rw [FilterRule.passes, hactive]
    rfl
  | formula hactive htest answer =>
    simp only [FilterRule.passes, hactive, htest, Bool.not_true, Bool.false_eq_true, if_false,
      outcome_bind, outcome_evaluateFormula hanswers]
    rfl
  | anyOf hactive htest hconditions =>
    simp only [FilterRule.passes, hactive, htest]
    exact hconditions.outcome_eq hanswers

/-- Filters are decided as goes with their calls. -/
theorem FiltersTake.outcome_eq {filters : List FilterRule} {passed : Bool}
    (h : FiltersTake ctx filters calls passed) (hanswers : sandbox.Answers s calls s') :
    outcome (passesAll sandbox ctx filters) s = (.ok passed, s') := by
  induction h generalizing s with
  | none =>
    obtain rfl := hanswers.eq_of_nil
    rfl
  | rejected hrule =>
    rw [passesAll, outcome_bind, hrule.outcome_eq hanswers]
    rfl
  | passed hrule _ ih =>
    obtain ⟨t, hfirst, hsecond⟩ := hanswers.of_append
    rw [passesAll, outcome_bind, hrule.outcome_eq hfirst]
    exact ih hsecond

/-- An output column becomes what goes with its calls. -/
theorem Output.Takes.outcome_eq {output : Output} {resolved : Resolved}
    (h : output.Takes ctx calls resolved) (hanswers : sandbox.Answers s calls s') :
    outcome (output.resolve sandbox ctx) s = (.ok resolved, s') := by
  cases h with
  | formula template answer =>
    rw [Output.resolve, outcome_resolveFormula_of_answers hanswers]
  | template tokens hhead answer =>
    rw [Output.resolve_expression, if_pos hhead, if_pos rfl,
      outcome_resolveFormula_of_answers hanswers]
  | verbatim tokens hhead answer =>
    rw [Output.resolve_expression, if_pos hhead, if_neg (by decide), outcome_bind,
      hanswers.outcome_submit]
    rfl
  | shown tokens hhead hasReference =>
    obtain rfl := hanswers.eq_of_nil
    rw [Output.resolve_expression, if_neg hhead]
    rfl
  | _ =>
    obtain rfl := hanswers.eq_of_nil
    rfl

/-- Output columns become what goes with their calls. -/
theorem OutputsTake.outcome_eq {outputs : List OutputRule} {cells : List Text} {last : Context}
    (h : OutputsTake ctx outputs calls cells last) (hanswers : sandbox.Answers s calls s') :
    outcome (evaluateOutputs sandbox ctx outputs) s = (.ok (last, cells), s') := by
  induction h generalizing s with
  | none =>
    obtain rfl := hanswers.eq_of_nil
    rfl
  | cons houtput _ ih =>
    obtain ⟨t, hfirst, hsecond⟩ := hanswers.of_append
    rw [evaluateOutputs, outcome_bind, houtput.outcome_eq hfirst]
    simp only [outcome_bind, ih hsecond]
    rfl

/-- A row becomes what goes with its calls. -/
theorem TracedRow.Follows.outcome_eq {rules : RuleSet} {row : TracedRow}
    (h : row.Follows rules ctx) (hanswers : sandbox.Answers s row.calls s') :
    outcome (evaluateRow sandbox rules ctx) s =
      (.ok (if row.kept then some row.cells else none), s') := by
  obtain ⟨last, houtputs, hfilters⟩ := h
  obtain ⟨t, hfirst, hsecond⟩ := Sandbox.Answers.of_append hanswers
  rw [evaluateRow, outcome_bind, houtputs.outcome_eq hfirst]
  simp only [outcome_bind, hfilters.outcome_eq hsecond]
  rfl

variable {source : Source} {rules : RuleSet}

/-- Rows become what goes with their calls, one row after the other. -/
theorem RuleSet.Visits.outcome_eq {kept : Nat} {rows : List (List Text)} {trace : List TracedRow}
    (h : rules.Visits source kept rows trace)
    (hanswers : sandbox.Answers s (traceCalls trace) s') :
    outcome (processRows sandbox source rules kept rows) s = (.ok (traceCells trace), s') := by
  induction h generalizing s with
  | none =>
    obtain rfl := hanswers.eq_of_nil
    rfl
  | @cons kept row rest more hrow _ ih =>
    obtain ⟨t, hfirst, hsecond⟩ := Sandbox.Answers.of_append hanswers
    have hmore := ih hsecond
    rw [processRows_cons, outcome_bind, hrow.outcome_eq hfirst]
    cases hkept : row.kept with
    | false =>
      rw [hkept, if_neg (by decide)] at hmore
      simpa [traceCells, hkept] using hmore
    | true =>
      rw [hkept, if_pos rfl] at hmore
      simp only [if_true, outcome_bind, hmore]
      simp [traceCells, hkept, outcome_pure]

/-- A run over visited rows gives their report. -/
theorem RuleSet.Visits.outcome_run {trace : List TracedRow}
    (h : rules.Visits source 0 source.rows trace)
    (hanswers : sandbox.Answers s (traceCalls trace) s') :
    outcome (rules.run sandbox source) s = (.ok (rules.report source trace), s') := by
  rw [RuleSet.run, outcome_bind, h.outcome_eq hanswers]
  rfl

end Outcomes

/-! ## Calls that are answered

A sandbox with an answer to every text answers calls along which a construct comes to a value,
from every state. -/

section Answerable

variable {σ ε α β : Type}

/-- From every state the sandbox answers some calls that are taken for some value. -/
def Sandbox.Allows (sandbox : Sandbox σ ε) (takes : List SandboxCall → α → Prop) : Prop :=
  ∀ s, ∃ calls value s', sandbox.Answers s calls s' ∧ takes calls value

namespace Sandbox.Allows

variable {sandbox : Sandbox σ ε} {takes : List SandboxCall → α → Prop}
  {next : List SandboxCall → β → Prop}

/-- No calls need be answered where none are taken. -/
theorem of_nil (value : α) (h : takes [] value) : sandbox.Allows takes :=
  fun s => ⟨[], value, s, .none s, h⟩

/-- After the calls of a first step those of a second one are answered, which may depend on the
first one. -/
theorem append (h : sandbox.Allows takes)
    (hnext : ∀ calls value, takes calls value →
      sandbox.Allows fun more result => next (calls ++ more) result) : sandbox.Allows next := by
  intro s
  obtain ⟨calls, value, t, hcalls, hvalue⟩ := h s
  obtain ⟨more, result, s', hmore, hresult⟩ := hnext calls value hvalue t
  exact ⟨calls ++ more, result, s', hcalls.append hmore, hresult⟩

/-- The same calls may be taken for something else. -/
theorem mono (h : sandbox.Allows takes)
    (hnext : ∀ calls value, takes calls value → ∃ result, next calls result) :
    sandbox.Allows next := by
  intro s
  obtain ⟨calls, value, s', hcalls, hvalue⟩ := h s
  obtain ⟨result, hresult⟩ := hnext calls value hvalue
  exact ⟨calls, result, s', hcalls, hresult⟩

end Sandbox.Allows

/-- The value of an operand is bounded, whatever is answered. -/
theorem Operand.Takes.bounded {ctx : Context} {operand : Operand} {calls : List SandboxCall}
    {value : Cell} (h : operand.Takes ctx calls value) : value.Bounded := by
  cases h <;> exact fun n => by simp

variable {sandbox : Sandbox σ ε} (htotal : sandbox.Total) (ctx : Context)
include htotal

/-- One call is answered, whatever the answer is. -/
theorem Sandbox.Total.allows_call {takes : List SandboxCall → α → Prop} (formula : Text)
    {value : Cell → α} (h : ∀ answer, takes [⟨formula, answer⟩] (value answer)) :
    sandbox.Allows takes := by
  intro s
  obtain ⟨answer, s', hanswer⟩ := htotal formula s
  exact ⟨[⟨formula, answer⟩], value answer, s', .cons hanswer (.none s'), h answer⟩

/-- The calls of an operand are answered. -/
theorem Sandbox.Total.allows_operand (operand : Operand) :
    sandbox.Allows (operand.Takes ctx) := by
  cases operand with
  | reference r => exact .of_nil _ (.reference r)
  | string value => exact .of_nil _ (.string value)
  | number value => exact .of_nil _ (.number value)
  | text value => exact .of_nil _ (.text value)
  | formula template => exact htotal.allows_call _ fun answer => .formula template answer
  | compound tokens raw => exact .of_nil _ (.compound tokens raw)

/-- The calls of a condition are answered. -/
theorem Sandbox.Total.allows_condition {c : Condition} (hoperator : c.HasOperator) :
    sandbox.Allows (c.Takes ctx) := by
  cases c with
  | formula template => exact htotal.allows_call _ fun answer => .formula template answer
  | comparison left symbol right =>
    obtain ⟨op, hop⟩ := hoperator
    refine (htotal.allows_operand ctx left).append fun first x hx => ?_
    refine (htotal.allows_operand ctx right).mono fun second y hy => ?_
    obtain ⟨holds, hholds⟩ := op.holds_of_bounded hx.bounded hy.bounded
    exact ⟨holds, .comparison hx hy hop hholds⟩

/-- The calls of alternative conditions are answered. -/
theorem Sandbox.Total.allows_conditions {conditions : List Condition}
    (hoperator : ∀ c ∈ conditions, c.HasOperator) :
    sandbox.Allows (ConditionsTake ctx conditions) := by
  induction conditions with
  | nil => exact .of_nil _ .none
  | cons c rest ih =>
    have hc := htotal.allows_condition ctx (hoperator c List.mem_cons_self)
    refine hc.append fun calls holds hcalls => ?_
    cases holds with
    | true =>
      refine .of_nil true ?_
      rw [List.append_nil]
      exact .holds hcalls
    | false =>
      exact (ih fun d hd => hoperator d (List.mem_cons_of_mem c hd)).mono
        fun more holds hmore => ⟨holds, .fails hcalls hmore⟩

/-- The calls of a filter are answered. -/
theorem Sandbox.Total.allows_filter {rule : FilterRule} (hoperators : rule.HasOperators) :
    sandbox.Allows (rule.Takes ctx) := by
  rcases rule with ⟨name, raw, active, test⟩
  cases active with
  | false => exact .of_nil _ (.note rfl)
  | true =>
    cases test with
    | formula template => exact htotal.allows_call _ fun answer => .formula rfl rfl answer
    | anyOf conditions =>
      exact (htotal.allows_conditions ctx (hoperators rfl conditions rfl)).mono
        fun calls passed hcalls => ⟨passed, .anyOf rfl rfl hcalls⟩

/-- The calls of filters are answered. -/
theorem Sandbox.Total.allows_filters {filters : List FilterRule}
    (hoperators : ∀ rule ∈ filters, rule.HasOperators) :
    sandbox.Allows (FiltersTake ctx filters) := by
  induction filters with
  | nil => exact .of_nil _ .none
  | cons rule rest ih =>
    have hrule := htotal.allows_filter ctx (hoperators rule List.mem_cons_self)
    refine hrule.append fun calls passed hcalls => ?_
    cases passed with
    | false =>
      refine .of_nil false ?_
      rw [List.append_nil]
      exact .rejected hcalls
    | true =>
      exact (ih fun other hother => hoperators other (List.mem_cons_of_mem rule hother)).mono
        fun more passed hmore => ⟨passed, .passed hcalls hmore⟩

/-- The calls of an output column are answered. -/
theorem Sandbox.Total.allows_output (output : Output) : sandbox.Allows (output.Takes ctx) := by
  cases output with
  | direct column => exact .of_nil _ (.direct column)
  | constant value => exact .of_nil _ (.constant value)
  | formula template => exact htotal.allows_call _ fun answer => .formula template answer
  | expression tokens raw hasReference =>
    by_cases hhead : raw.head? = some '='
    · cases hasReference with
      | true => exact htotal.allows_call _ fun answer => .template tokens hhead answer
      | false => exact htotal.allows_call _ fun answer => .verbatim tokens hhead answer
    · exact .of_nil _ (.shown tokens hhead hasReference)

/-- The calls of output columns are answered. -/
theorem Sandbox.Total.allows_outputs (outputs : List OutputRule) :
    sandbox.Allows fun calls (result : List Text × Context) =>
      OutputsTake ctx outputs calls result.1 result.2 := by
  induction outputs generalizing ctx with
  | nil => exact .of_nil ([], ctx) (.none ctx)
  | cons rule rest ih =>
    refine (htotal.allows_output ctx rule.output).append fun calls resolved hcalls => ?_
    exact (ih (ctx.withOutput rule.header resolved.evaluated)).mono
      fun more result hmore => ⟨(_, result.2), .cons hcalls hmore⟩

variable {rules : RuleSet} (hoperators : ∀ rule ∈ rules.filters, rule.HasOperators)
include hoperators

/-- The calls of a row are answered. -/
theorem Sandbox.Total.allows_row (source : List Text) :
    sandbox.Allows fun calls (row : TracedRow) =>
      row.source = source ∧ row.calls = calls ∧ row.Follows rules ctx := by
  refine (htotal.allows_outputs ctx rules.outputs).append fun first result hfirst => ?_
  refine (htotal.allows_filters result.2 hoperators).mono fun second kept hsecond => ?_
  exact ⟨⟨source, first, second, result.1, kept⟩, rfl, rfl, result.2, hfirst, hsecond⟩

/-- The calls of rows are answered, one row after the other. -/
theorem Sandbox.Total.allows_rows (source : Source) (kept : Nat) (rows : List (List Text)) :
    sandbox.Allows fun calls trace =>
      traceCalls trace = calls ∧ rules.Visits source kept rows trace := by
  induction rows generalizing kept with
  | nil => exact .of_nil _ ⟨rfl, .none kept⟩
  | cons row rest ih =>
    let ctx := rowContext source rules row (firstDataRow + kept)
    refine (htotal.allows_row ctx hoperators row).append ?_
    rintro calls traced ⟨rfl, rfl, hfollows⟩
    -- Whether this row is kept says which output row the next one is visited for.
    refine (ih (if traced.kept then kept + 1 else kept)).mono ?_
    rintro more trace ⟨rfl, hvisits⟩
    exact ⟨traced :: trace, rfl, .cons hfollows hvisits⟩

end Answerable

section Runs

variable {σ ε : Type} {sandbox : Sandbox σ ε} {rules : RuleSet} {source : Source} {s t t' : σ}

/-- A run that begins in a state ends in another one. It visits the rows of the table in order,
and its calls are those of the rows, one row after the other. -/
structure RuleSet.RunsAlong (rules : RuleSet) (sandbox : Sandbox σ ε) (source : Source)
    (trace : List TracedRow) (s s' : σ) : Prop where
  visits : rules.Visits source 0 source.rows trace
  answers : sandbox.Answers s (traceCalls trace) s'
  /-- No other calls with the answers of the sandbox lead through the table. -/
  calls_unique : ∀ other t, rules.Visits source 0 source.rows other →
    sandbox.Answers s (traceCalls other) t → traceCalls other = traceCalls trace
  outcome_eq : outcome (rules.run sandbox source) s = (.ok (rules.report source trace), s')
  /-- Nothing else is submitted, and nothing in another order. -/
  recorded_eq : ∀ before, outcome (rules.run sandbox.recorded source) (s, before) =
    (.ok (rules.report source trace),
      (s', ((traceCalls trace).map SandboxCall.formula).reverse ++ before))
  accounted : Accounted rules source trace (rules.report source trace)

/-- A sandbox that notes what is submitted notes the calls of a run. -/
theorem RuleSet.Visits.outcome_recorded {trace : List TracedRow}
    (h : rules.Visits source 0 source.rows trace)
    (hanswers : sandbox.Answers s (traceCalls trace) t) (before : List Text) :
    outcome (rules.run sandbox.recorded source) (s, before) =
      (.ok (rules.report source trace),
        (t, ((traceCalls trace).map SandboxCall.formula).reverse ++ before)) :=
  h.outcome_run (hanswers.recorded before)

/-- The sandbox and its state determine the calls of a run. -/
theorem RuleSet.Visits.traceCalls_eq {trace other : List TracedRow}
    (h : rules.Visits source 0 source.rows trace)
    (hanswers : sandbox.Answers s (traceCalls trace) t)
    (hother : rules.Visits source 0 source.rows other)
    (hothers : sandbox.Answers s (traceCalls other) t') :
    traceCalls other = traceCalls trace := by
  have hnotes := (hother.outcome_recorded hothers []).symm.trans (h.outcome_recorded hanswers [])
  have htexts := (Prod.mk.inj (Prod.mk.inj hnotes).2).2
  rw [List.append_nil, List.append_nil] at htexts
  exact hothers.unique hanswers (List.reverse_injective htexts)

/-- With a sandbox that has an answer to every text, though perhaps another one each time, a
mapping that is loaded transforms every table, and it calls the sandbox for its rows one after
the other. -/
theorem RuleSet.exists_runsAlong_of_load {headers : List Text} {mapping : List (Text × Text)}
    {rules : RuleSet} (hload : load headers mapping = .ok rules) (htotal : sandbox.Total)
    (source : Source) (s : σ) : ∃ trace s', rules.RunsAlong sandbox source trace s s' := by
  obtain ⟨_, trace, s', hanswers, rfl, hvisits⟩ :=
    htotal.allows_rows (hasOperators_of_load hload) source 0 source.rows s
  exact ⟨trace, s', {
    visits := hvisits
    answers := hanswers
    calls_unique := fun _ _ hother hothers => hvisits.traceCalls_eq hanswers hother hothers
    outcome_eq := hvisits.outcome_run hanswers
    recorded_eq := hvisits.outcome_recorded hanswers
    accounted := hvisits.accounted }⟩

/-- A sandbox that answers with true and false in turn, and counts how often it is asked. -/
def Sandbox.alternating : Sandbox Nat ε :=
  fun _ => ExceptT.mk fun asked => (.ok (.bool (asked % 2 = 0)), asked + 1)

/-- The same formula of a filter gets another answer in the first row than in the third one. In
the second row the condition before it holds, so that it is not asked for. -/
theorem RuleSet.runsAlong_alternating :
    ∃ rules, load ["N".toList] [("A".toList, "src[N]".toList),
        ("B".toList, "formula:=self[A]*2".toList),
        ("_filter:note".toList, "only odd numbers".toList),
        ("_filter:odd".toList, "eval:src[N] == \"7\" || =ODD(src[N])".toList)] = .ok rules ∧
      outcome (rules.run (Sandbox.alternating : Sandbox Nat Unit).recorded
          ⟨["N".toList], [["5".toList], ["7".toList], ["9".toList]]⟩) (0, []) =
        (.ok ⟨["A".toList, "B".toList],
          [["7".toList, "=A2*2".toList], ["9".toList, "=A3*2".toList]], 3, 1⟩,
          (5, ["=ODD(9)".toList, "=9*2".toList, "=7*2".toList, "=ODD(5)".toList,
            "=5*2".toList])) ∧
      ∃ trace s', rules.RunsAlong (Sandbox.alternating : Sandbox Nat Unit)
        ⟨["N".toList], [["5".toList], ["7".toList], ["9".toList]]⟩ trace 0 s' := by
  let rules : RuleSet :=
    ⟨[⟨"A".toList, .expression [⟨.sourceRef, "N".toList, "src[N]".toList⟩] "src[N]".toList true⟩,
        ⟨"B".toList, .formula "=self[A]*2".toList⟩],
      [⟨"note".toList, "only odd numbers".toList, false, .anyOf []⟩,
        ⟨"odd".toList, "eval:src[N] == \"7\" || =ODD(src[N])".toList, true,
          .anyOf [.comparison (.reference ⟨.source, "N".toList⟩) "==".toList (.string "7".toList),
            .formula "=ODD(src[N])".toList]⟩]⟩
  have hload : load ["N".toList] [("A".toList, "src[N]".toList),
      ("B".toList, "formula:=self[A]*2".toList),
      ("_filter:note".toList, "only odd numbers".toList),
      ("_filter:odd".toList, "eval:src[N] == \"7\" || =ODD(src[N])".toList)] = .ok rules := by
    decide +kernel
  have htotal : (Sandbox.alternating : Sandbox Nat Unit).Total :=
    fun _ asked => ⟨_, asked + 1, rfl⟩
  exact ⟨rules, hload, by decide +kernel, exists_runsAlong_of_load hload htotal _ 0⟩

end Runs

end Rowscript
