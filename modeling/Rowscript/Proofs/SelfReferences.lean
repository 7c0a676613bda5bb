import Rowscript.Proofs.CallTraces
import Rowscript.Proofs.WrittenFormulas

/-!
# What references to outputs stand for

The outputs of a row are collected while it is computed, and a later column with the same
header replaces an earlier one. So a reference to an output stands for the last column on the
left with its header, and in a filter for the last column at all; without one it is empty.
What it stands for is the value that was evaluated: the answer of the sandbox for a formula,
which is written to the output as a formula, and otherwise the text that is written.
-/

namespace Rowscript

/-- The value of the last of some columns with a header; without such a column it is the empty
text. -/
inductive LatestValue (columns : List ComputedColumn) (header : Text) : Cell → Prop where
  | computed {i : Nat} {column : ComputedColumn}
      (hlast : LastAt header (columns.map ComputedColumn.header) i)
      (hcolumn : columns[i]? = some column) :
      LatestValue columns header column.resolved.evaluated
  | absent (hnone : header ∉ columns.map ComputedColumn.header) :
      LatestValue columns header (.text [])

/-- In a context a reference to an output stands for a value: wherever the reference is put
into a text or compared, it is the value in the form that is asked for there. -/
structure Context.Shows (ctx : Context) (header : Text) (value : Cell) : Prop where
  /-- As an operand it is the text that is displayed. -/
  operand : ∀ {σ ε : Type} (sandbox : Sandbox σ ε),
    (Operand.reference ⟨.output, header⟩).evaluate sandbox ctx = pure (.text value.display)
  /-- So it is in the text of several tokens that are compared. -/
  template : ctx.resolvePiece false (.reference ⟨.output, header⟩) = value.display
  /-- So it is in the text of a column. -/
  shown : ctx.forDisplay.resolvePiece false (.reference ⟨.output, header⟩) = value.display
  /-- In a formula that is submitted it is a literal. -/
  formula : ctx.forFormula.resolvePiece false (.reference ⟨.output, header⟩) =
    value.formulaLiteral
  /-- In a formula that is written it is a literal unless the address of the cell is known. -/
  written : ctx.forFormula.resolvePiece true (.reference ⟨.output, header⟩) =
    (ctx.address? ⟨.output, header⟩).getD value.formulaLiteral

/-- A context for display shows the value that it has. -/
theorem Context.shows_value {ctx : Context} (hstyle : ctx.style = .display) (header : Text) :
    ctx.Shows header (ctx.value ⟨.output, header⟩) where
  operand sandbox := by simp [Operand.evaluate_reference, substitute, hstyle]
  template := by simp [resolvePiece_reference_eq, substitute, hstyle]
  shown := by simp [resolvePiece_reference_eq, substitute, forDisplay, value, value?]
  formula := by simp [resolvePiece_reference_eq, substitute, forFormula, value, value?]
  written := by
    have haddress : ctx.forFormula.address? ⟨.output, header⟩ = ctx.address? ⟨.output, header⟩ :=
      rfl
    simp only [resolvePiece_reference_eq, haddress]
    cases ctx.address? ⟨.output, header⟩ <;> simp [substitute, forFormula, value, value?]

/-- Computing columns changes nothing of a context but the outputs. -/
theorem Context.after_eq (ctx : Context) (columns : List ComputedColumn) :
    ctx.after columns = { ctx with outputs := (ctx.after columns).outputs } := by
  induction columns generalizing ctx with
  | nil => rfl
  | cons column rest ih => exact ih _

/-- After columns have been computed, a reference has the value of the last one of them with
its header. -/
theorem Context.latestValue_after {ctx : Context} (houtputs : ctx.outputs = [])
    (columns : List ComputedColumn) (header : Text) :
    LatestValue columns header ((ctx.after columns).value ⟨.output, header⟩) := by
  have hvalue : (ctx.after columns).value ⟨.output, header⟩ =
      ((columns.map ComputedColumn.binding).reverse.lookup header).getD (.text []) := by
    rw [value, value?, after_outputs, houtputs, List.append_nil]
  have hnames : (columns.map ComputedColumn.binding).map Prod.fst =
      columns.map ComputedColumn.header := by
    rw [List.map_map]
    rfl
  rw [hvalue]
  cases hlookup : (columns.map ComputedColumn.binding).reverse.lookup header with
  | none =>
    refine .absent fun hmem => ?_
    obtain ⟨column, hcolumn, rfl⟩ := List.mem_map.mp hmem
    have hbinding := List.lookup_eq_none_iff.mp hlookup column.binding
      (List.mem_reverse.mpr (List.mem_map_of_mem hcolumn))
    simp [ComputedColumn.binding] at hbinding
  | some found =>
    obtain ⟨i, hi, hlast⟩ := lookup_reverse_eq_some_iff.mp hlookup
    rw [List.getElem?_map, Option.map_eq_some_iff] at hi
    obtain ⟨column, hcolumn, hbinding⟩ := hi
    obtain ⟨-, rfl⟩ := Prod.mk.inj hbinding
    exact .computed (hnames ▸ hlast) hcolumn

/-- What an output column is evaluated to is the answer of the sandbox for a formula, and
otherwise the text that is written, for which the sandbox is not asked. -/
structure Output.Evaluates {σ ε : Type} (output : Output) (sandbox : Sandbox σ ε) (ctx : Context)
    (resolved : Resolved) (s s' : σ) : Prop where
  answered : output.isComputed = true → ∃ submission, output.submissions = [submission] ∧
    outcome (sandbox (submission.text ctx)) s = (.ok resolved.evaluated, s')
  unasked : output.isComputed = false → output.submissions = [] ∧
    resolved.evaluated = .text resolved.literal.display ∧ s' = s

section Runs

variable {σ ε : Type} {sandbox : Sandbox σ ε} {ctx : Context} {outputs : List OutputRule}
  {columns : List ComputedColumn} {s s' : σ}

/-- An output column that is no formula is the text that is written. -/
theorem Output.Evaluates.of_text {output : Output} (hcomputed : output.isComputed = false)
    (hsubmissions : output.submissions = []) {t : Text} {resolved : Resolved}
    (h : outcome (pure (Resolved.same (.text t)) : Evaluation σ ε Resolved) s =
      (.ok resolved, s')) : output.Evaluates sandbox ctx resolved s s' := by
  simp only [outcome_pure, Prod.mk.injEq, Except.ok.injEq] at h
  obtain ⟨rfl, rfl⟩ := h
  exact ⟨fun hformula => by simp [hcomputed] at hformula, fun _ => ⟨hsubmissions, rfl, rfl⟩⟩

/-- What an output column is resolved to is its value, where source columns are texts. -/
theorem Output.evaluates_of_resolve {output : Output} {resolved : Resolved}
    (htext : ∀ name, ∃ t, ctx.value ⟨.source, name⟩ = .text t)
    (h : outcome (output.resolve sandbox ctx) s = (.ok resolved, s')) :
    output.Evaluates sandbox ctx resolved s s' := by
  cases output with
  | direct column =>
    obtain ⟨t, ht⟩ := htext column
    rw [resolve, ht] at h
    exact .of_text rfl rfl h
  | constant value => exact .of_text rfl rfl h
  | formula template =>
    exact ⟨fun _ => ⟨.template template, rfl, (outcome_resolveFormula h).2⟩, by simp [isComputed]⟩
  | expression tokens raw hasReference =>
    rw [resolve_expression] at h
    by_cases hhead : raw.head? = some '='
    · rw [if_pos hhead] at h
      refine ⟨fun _ => ?_, by simp [isComputed, hhead]⟩
      cases hasReference with
      | true =>
        exact ⟨.template raw, by simp [submissions, hhead], (outcome_resolveFormula h).2⟩
      | false =>
        obtain ⟨answer, t, hanswer, h⟩ := outcome_bind_eq_ok_iff.mp h
        simp only [outcome_pure, Prod.mk.injEq, Except.ok.injEq] at h
        obtain ⟨rfl, rfl⟩ := h
        rw [submit, outcome_adapt_eq_ok_iff] at hanswer
        exact ⟨.verbatim raw, by simp [submissions, hhead], hanswer⟩
    · rw [if_neg hhead] at h
      exact .of_text (by simp [isComputed, hhead]) (by simp [submissions, hhead]) h

/-- Columns are computed one after the other: a column is resolved in the context and the state
that the columns on its left lead to. -/
theorem outcome_computeColumns_take
    (h : outcome (computeColumns sandbox ctx outputs) s = (.ok columns, s')) {j : Nat}
    {column : ComputedColumn} (hj : columns[j]? = some column) :
    ∃ t t', outcome (computeColumns sandbox ctx (outputs.take j)) s =
        (.ok (columns.take j), t) ∧
      column.context = ctx.after (columns.take j) ∧
      outcome (column.rule.output.resolve sandbox column.context) t =
        (.ok column.resolved, t') := by
  induction outputs generalizing ctx columns s j with
  | nil =>
    simp only [computeColumns, outcome_pure, Prod.mk.injEq, Except.ok.injEq] at h
    simp [← h.1] at hj
  | cons rule rest ih =>
    obtain ⟨resolved, t, hresolved, h⟩ := outcome_bind_eq_ok_iff.mp h
    obtain ⟨more, t', hmore, h⟩ := outcome_bind_eq_ok_iff.mp h
    simp only [outcome_pure, Prod.mk.injEq, Except.ok.injEq] at h
    obtain ⟨rfl, rfl⟩ := h
    cases j with
    | zero =>
      obtain rfl := Option.some.inj hj
      exact ⟨s, t, rfl, rfl, hresolved⟩
    | succ j =>
      obtain ⟨u, u', hcolumns, hcontext, hcolumn⟩ := ih hmore hj
      refine ⟨u, u', ?_, hcontext, hcolumn⟩
      rw [List.take_succ_cons, List.take_succ_cons, computeColumns, outcome_bind, hresolved]
      simp only [outcome_bind, hcolumns]
      rfl

/-- Columns that are computed are the outputs of the row. -/
theorem run_computeOutputs_of_columns
    (h : outcome (computeColumns sandbox ctx outputs) s = (.ok columns, s')) :
    (computeOutputs sandbox ctx outputs).run s =
      ((ctx.after columns, .ok (columns.map ComputedColumn.cell)), s') := by
  have houtputs : outcome (evaluateOutputs sandbox ctx outputs) s =
      (.ok (ctx.after columns, columns.map ComputedColumn.cell), s') := by
    rw [evaluateOutputs_eq_map, outcome_map, h]
    rfl
  obtain ⟨last, hrun, hlast⟩ := run_computeOutputs houtputs
  obtain rfl := hlast _ rfl
  exact hrun

/-- A sandbox with a value for every formula computes the columns of every rule. -/
theorem Sandbox.Total.exists_columns (htotal : sandbox.Total) (ctx : Context)
    (outputs : List OutputRule) (s : σ) :
    ∃ columns s', outcome (computeColumns sandbox ctx outputs) s = (.ok columns, s') := by
  have hsatisfies := (EvaluationLogic.keeping (fun _ => True) (fun _ _ => False)).outputs
    (fun submission (_ : submission ∈ outputs.flatMap (fun rule => rule.output.submissions)) =>
      htotal.safe submission) ctx
  obtain ⟨result, s', hresult, -⟩ := Satisfies.exists_ok hsatisfies (s := s) trivial
  rw [evaluateOutputs_eq_map, outcome_map] at hresult
  rcases hout : outcome (computeColumns sandbox ctx outputs) s with ⟨e | columns, t⟩
  · simp [hout, Except.map] at hresult
  · exact ⟨columns, t, rfl⟩

/-- A sandbox with a value for every formula decides filters that compare by operators. -/
theorem Sandbox.Total.exists_passesAll (htotal : sandbox.Total) (ctx : Context)
    {filters : List FilterRule} (hoperators : ∀ rule ∈ filters, rule.HasOperators) (s : σ) :
    ∃ kept s', outcome (passesAll sandbox ctx filters) s = (.ok kept, s') := by
  have hsatisfies := (EvaluationLogic.keeping (fun _ => True) (fun _ _ => False)).filters
    hoperators (fun submission (_ : submission ∈ filters.flatMap FilterRule.submissions) =>
      htotal.safe submission) ctx
  obtain ⟨kept, s', hkept, -⟩ := Satisfies.exists_ok hsatisfies (s := s) trivial
  exact ⟨kept, s', hkept⟩

/-- The source columns of a row are texts. -/
theorem exists_value_source (source : Source) (rules : RuleSet) (row : List Text)
    (outputRow : Nat) (name : Text) :
    ∃ t, (rowContext source rules row outputRow).value ⟨.source, name⟩ = .text t := by
  change ∃ t, ((rowContext source rules row outputRow).source.lookup name).getD (.text []) = .text t
  cases hlookup : (rowContext source rules row outputRow).source.lookup name with
  | none => exact ⟨[], rfl⟩
  | some value =>
    obtain ⟨before, after, hsplit, -⟩ := List.lookup_eq_some_iff.mp hlookup
    have hmem : (name, value) ∈ (rowContext source rules row outputRow).source := by
      rw [hsplit]
      simp
    obtain ⟨⟨_, t⟩, -, hentry⟩ := List.mem_map.mp hmem
    exact ⟨t, (Prod.mk.inj hentry).2.symm⟩

/-- How a row is processed: column by column, each one resolved in the context and the state
that those on its left lead to, and then the filters, in the context and the state that all
columns lead to. -/
structure RuleSet.Processes (rules : RuleSet) (sandbox : Sandbox σ ε) (ctx : Context) (s : σ)
    (columns : List ComputedColumn) (kept : Bool) (s' : σ) : Prop where
  rule_eq : columns.map ComputedColumn.rule = rules.outputs
  /-- While a column is resolved, a reference to an output stands for the last one on the left
  with its header. -/
  column : ∀ j column, columns[j]? = some column → ∃ t t',
    (computeOutputs sandbox ctx (rules.outputs.take j)).run s =
        ((column.context, .ok ((columns.take j).map ComputedColumn.cell)), t) ∧
      outcome (column.rule.output.resolve sandbox column.context) t = (.ok column.resolved, t') ∧
      column.rule.output.Evaluates sandbox column.context column.resolved t t' ∧
      ∀ header, ∃ value, LatestValue (columns.take j) header value ∧
        column.context.Shows header value
  /-- While filters are evaluated, it stands for the last one with its header. -/
  filters : ∃ last t,
    (computeOutputs sandbox ctx rules.outputs).run s =
        ((last, .ok (columns.map ComputedColumn.cell)), t) ∧
      outcome (passesAll sandbox last rules.filters) t = (.ok kept, s') ∧
      (∀ header, ∃ value, LatestValue columns header value ∧ last.Shows header value) ∧
      (processRow sandbox rules ctx).run s =
        (⟨last.outputs, .ok (if kept then some (columns.map ComputedColumn.cell) else none)⟩, s')

/-- Processing a row is computing its columns and then evaluating the filters. -/
theorem RuleSet.processes_of_outcome {rules : RuleSet} {kept : Bool} {t : σ}
    (houtputs : ctx.outputs = []) (hstyle : ctx.style = .display)
    (htext : ∀ name, ∃ t, ctx.value ⟨.source, name⟩ = .text t)
    (hcolumns : outcome (computeColumns sandbox ctx rules.outputs) s = (.ok columns, t))
    (hfilters : outcome (passesAll sandbox (ctx.after columns) rules.filters) t =
      (.ok kept, s')) : rules.Processes sandbox ctx s columns kept s' := by
  have hshows : ∀ columns header, ∃ value, LatestValue columns header value ∧
      (ctx.after columns).Shows header value := by
    intro columns header
    refine ⟨_, Context.latestValue_after houtputs columns header, Context.shows_value ?_ header⟩
    rw [Context.after_eq]
    exact hstyle
  have hrun := run_computeOutputs_of_columns hcolumns
  refine ⟨?_, fun j column hj => ?_, _, t, hrun, hfilters, hshows columns, ?_⟩
  · have hcomputed : Satisfies _ (ComputedFrom sandbox ctx rules.outputs) _ _ :=
      satisfies_computeColumns ctx rules.outputs
    have hcomputed := hcomputed s trivial
    rw [hcolumns] at hcomputed
    exact hcomputed.2.rule_eq
  · obtain ⟨u, u', htake, hcontext, hresolve⟩ := outcome_computeColumns_take hcolumns hj
    refine ⟨u, u', hcontext ▸ run_computeOutputs_of_columns htake, hresolve,
      Output.evaluates_of_resolve ?_ hresolve, hcontext ▸ hshows (columns.take j)⟩
    intro name
    rw [hcontext, Context.after_eq]
    exact htext name
  · rw [run_processRow_eq, hrun]
    simp only [hfilters, Except.map]

/-- What is processed of a row is what it is evaluated to. -/
theorem RuleSet.Processes.outcome_evaluateRow {rules : RuleSet} {kept : Bool}
    (h : rules.Processes sandbox ctx s columns kept s') :
    outcome (evaluateRow sandbox rules ctx) s =
      (.ok (if kept then some (columns.map ComputedColumn.cell) else none), s') := by
  obtain ⟨last, t, -, -, -, hrun⟩ := h.filters
  obtain ⟨collected, heval⟩ : ∃ outputs, (processRow sandbox rules ctx).run s = _ :=
    run_processRow rules ctx s
  rw [hrun] at heval
  obtain ⟨hrow, hstate⟩ := Prod.mk.inj heval
  rw [hstate, (RowOutcome.mk.inj hrow).2]

/-- A row is processed, wherever it stands and in whatever state a sandbox is that has a value
for every formula. -/
theorem RuleSet.exists_processes {rules : RuleSet}
    (hoperators : ∀ rule ∈ rules.filters, rule.HasOperators) (htotal : sandbox.Total)
    (source : Source) (row : List Text) (outputRow : Nat) (s : σ) :
    ∃ columns kept s', rules.Processes sandbox (rowContext source rules row outputRow) s columns
      kept s' := by
  obtain ⟨columns, t, hcolumns⟩ :=
    htotal.exists_columns (rowContext source rules row outputRow) rules.outputs s
  obtain ⟨kept, s', hfilters⟩ :=
    htotal.exists_passesAll ((rowContext source rules row outputRow).after columns) hoperators t
  exact ⟨columns, kept, s', processes_of_outcome rfl rfl
    (exists_value_source source rules row outputRow) hcolumns hfilters⟩

/-- How rows are processed one after the other, with the cells of the rows that are kept: each
row begins in the state that the one before leaves. -/
inductive RuleSet.ProcessesRows (rules : RuleSet) (sandbox : Sandbox σ ε) (source : Source) :
    Nat → List (List Text) → σ → List (List Text) → σ → Prop where
  | nil (kept : Nat) (s : σ) : ProcessesRows rules sandbox source kept [] s [] s
  | rejected {kept : Nat} {row : List Text} {rest cells : List (List Text)}
      {columns : List ComputedColumn} {s t s' : σ}
      (hrow : rules.Processes sandbox (rowContext source rules row (firstDataRow + kept)) s
        columns false t)
      (hrest : ProcessesRows rules sandbox source kept rest t cells s') :
      ProcessesRows rules sandbox source kept (row :: rest) s cells s'
  | kept {kept : Nat} {row : List Text} {rest cells : List (List Text)}
      {columns : List ComputedColumn} {s t s' : σ}
      (hrow : rules.Processes sandbox (rowContext source rules row (firstDataRow + kept)) s
        columns true t)
      (hrest : ProcessesRows rules sandbox source (kept + 1) rest t cells s') :
      ProcessesRows rules sandbox source kept (row :: rest) s
        (columns.map ComputedColumn.cell :: cells) s'

/-- Rows that are processed one after the other are the rows of a run. -/
theorem RuleSet.ProcessesRows.outcome_eq {rules : RuleSet} {source : Source} {kept : Nat}
    {rows cells : List (List Text)}
    (h : rules.ProcessesRows sandbox source kept rows s cells s') :
    outcome (processRows sandbox source rules kept rows) s = (.ok cells, s') := by
  induction h with
  | nil => rfl
  | rejected hrow _ ih =>
    rw [processRows_cons, outcome_bind, hrow.outcome_evaluateRow]
    exact ih
  | kept hrow _ ih =>
    rw [processRows_cons, outcome_bind, hrow.outcome_evaluateRow]
    simp only [if_true, outcome_bind, ih]
    rfl

/-- Rows can be processed one after the other. -/
theorem RuleSet.exists_processesRows {rules : RuleSet}
    (hoperators : ∀ rule ∈ rules.filters, rule.HasOperators) (htotal : sandbox.Total)
    (source : Source) (kept : Nat) (rows : List (List Text)) (s : σ) :
    ∃ cells s', rules.ProcessesRows sandbox source kept rows s cells s' := by
  induction rows generalizing kept s with
  | nil => exact ⟨[], s, .nil kept s⟩
  | cons row rest ih =>
    obtain ⟨columns, passed, t, hrow⟩ :=
      exists_processes hoperators htotal source row (firstDataRow + kept) s
    cases passed with
    | false =>
      obtain ⟨cells, s', hrest⟩ := ih kept t
      exact ⟨_, s', .rejected hrow hrest⟩
    | true =>
      obtain ⟨cells, s', hrest⟩ := ih (kept + 1) t
      exact ⟨_, s', .kept hrow hrest⟩

/-- References to outputs see the latest values on their left: with a sandbox that has a value
for every formula, a mapping that is loaded transforms every table row by row, and all through
a row a reference to an output stands for the evaluated value of the last column computed so
far with its header, or for nothing. -/
theorem RuleSet.processesRows_of_load {headers : List Text} {mapping : List (Text × Text)}
    {rules : RuleSet} (hload : load headers mapping = .ok rules) (htotal : sandbox.Total)
    (source : Source) (s : σ) :
    ∃ rows s', rules.ProcessesRows sandbox source 0 source.rows s rows s' ∧
      outcome (rules.run sandbox source) s =
        (.ok ⟨rules.outputHeaders, rows, source.rows.length, source.rows.length - rows.length⟩,
          s') := by
  obtain ⟨rows, s', hrows⟩ :=
    exists_processesRows (hasOperators_of_load hload) htotal source 0 source.rows s
  refine ⟨rows, s', hrows, ?_⟩
  rw [run, outcome_bind, hrows.outcome_eq]
  rfl

/-- Of two columns with the same header a reference sees the one that has been computed last,
and nothing of a column that is computed later. Formulas are seen as they are answered, though
they are written with addresses. -/
theorem RuleSet.processesRows_repeated_header :
    let sandbox : Sandbox Unit Unit := .answering fun t => .text (t.drop 1)
    let source : Source := ⟨["N".toList], [["5".toList], ["6".toList]]⟩
    ∃ rules, load ["N".toList] [("A".toList, "src[N]".toList),
        ("B".toList, "formula:=self[A]&self[C]".toList),
        ("A".toList, "formula:=self[A]*2".toList),
        ("C".toList, "self[A] and self[B]".toList),
        ("_filter:x".toList, "eval:self[A] == \"6*2\"".toList)] = .ok rules ∧
      (outcome (rules.run sandbox source) ()).1.map Transformed.rows =
        .ok [["6".toList, "=C2&D2".toList, "=C2*2".toList, "6*2 and 6&\"\"".toList]] ∧
      ((processRow sandbox rules (rowContext source rules ["5".toList] 2)).run ()).1.outputs =
        [("C".toList, .text "5*2 and 5&\"\"".toList), ("A".toList, .text "5*2".toList),
          ("B".toList, .text "5&\"\"".toList), ("A".toList, .text "5".toList)] ∧
      ∃ rows s', rules.ProcessesRows sandbox source 0 source.rows () rows s' ∧
        outcome (rules.run sandbox source) () =
          (.ok ⟨rules.outputHeaders, rows, source.rows.length,
            source.rows.length - rows.length⟩, s') := by
  intro sandbox source
  let rules : RuleSet :=
    ⟨[⟨"A".toList, .expression (tokenize "src[N]".toList) "src[N]".toList true⟩,
        ⟨"B".toList, .formula "=self[A]&self[C]".toList⟩,
        ⟨"A".toList, .formula "=self[A]*2".toList⟩,
        ⟨"C".toList, .expression (tokenize "self[A] and self[B]".toList)
          "self[A] and self[B]".toList true⟩],
      [⟨"x".toList, "eval:self[A] == \"6*2\"".toList, true,
        .anyOf [.comparison (.reference ⟨.output, "A".toList⟩) "==".toList
          (.string "6*2".toList)]⟩]⟩
  have hload : load ["N".toList] [("A".toList, "src[N]".toList),
      ("B".toList, "formula:=self[A]&self[C]".toList),
      ("A".toList, "formula:=self[A]*2".toList),
      ("C".toList, "self[A] and self[B]".toList),
      ("_filter:x".toList, "eval:self[A] == \"6*2\"".toList)] = .ok rules := by
    decide +kernel
  have htotal : sandbox.Total := Sandbox.total_answering _
  exact ⟨rules, hload, by decide +kernel, by decide +kernel,
    processesRows_of_load hload htotal source ()⟩

end Runs

end Rowscript
