import Rowscript.Proofs.CellReferences

/-!
# Rows are independent

Addresses are only written: no value, no filter and no text that is submitted depends on
them. They are all that a row takes over from the rows before it, so the rows of a table are
judged one by one. With a sandbox that answers every text by a function, what a row comes to
and what it submits are fixed by the row itself, and a run over two tables one below the other
is a run over each of them.
-/

namespace Rowscript

section Addresses

variable {σ ε : Type} {sandbox : Sandbox σ ε} (ctx : Context) (addresses : Bindings Text)

/-- The value of a formula does not depend on addresses. -/
theorem evaluateFormula_addresses (template : Text) :
    evaluateFormula sandbox { ctx with addresses := addresses } template =
      evaluateFormula sandbox ctx template := by
  rw [evaluateFormula_eq, evaluateFormula_eq]
  exact congrArg (submit sandbox) (ctx.forFormula.resolve_false_addresses addresses template)

/-- The value of an operand does not depend on addresses. -/
theorem Operand.evaluate_addresses (operand : Operand) :
    operand.evaluate sandbox { ctx with addresses := addresses } =
      operand.evaluate sandbox ctx := by
  cases operand with
  | formula template => rw [evaluate, evaluate, evaluateFormula_addresses]
  | reference r =>
    rw [evaluate_reference, evaluate_reference]
    rfl
  | compound tokens raw =>
    rw [evaluate_compound, evaluate_compound, Context.resolve_false_addresses]
  | _ => rfl

/-- Whether a condition holds does not depend on addresses. -/
theorem Condition.evaluate_addresses (c : Condition) :
    c.evaluate sandbox { ctx with addresses := addresses } = c.evaluate sandbox ctx := by
  cases c with
  | formula template => rw [evaluate, evaluate, evaluateFormula_addresses]
  | comparison left symbol right => simp only [evaluate, Operand.evaluate_addresses]

/-- Whether some condition holds does not depend on addresses. -/
theorem anyHolds_addresses (conditions : List Condition) :
    anyHolds sandbox { ctx with addresses := addresses } conditions =
      anyHolds sandbox ctx conditions := by
  induction conditions with
  | nil => rfl
  | cons c rest ih => simp only [anyHolds, Condition.evaluate_addresses, ih]

/-- Whether a row passes a filter does not depend on addresses. -/
theorem FilterRule.passes_addresses (rule : FilterRule) :
    rule.passes sandbox { ctx with addresses := addresses } = rule.passes sandbox ctx := by
  simp only [passes, evaluateFormula_addresses, anyHolds_addresses]

/-- Whether a row passes all filters does not depend on addresses. -/
theorem passesAll_addresses (filters : List FilterRule) :
    passesAll sandbox { ctx with addresses := addresses } filters =
      passesAll sandbox ctx filters := by
  induction filters with
  | nil => rfl
  | cons rule rest ih => simp only [passesAll, FilterRule.passes_addresses, ih]

/-- The value of a formula column is the value of its formula. -/
theorem map_evaluated_resolveFormula (template : Text) :
    Resolved.evaluated <$> resolveFormula sandbox ctx template =
      evaluateFormula sandbox ctx template := by
  simp [resolveFormula_eq]

/-- The value of an output column does not depend on addresses. -/
theorem Output.map_evaluated_addresses (output : Output) :
    Resolved.evaluated <$> output.resolve sandbox { ctx with addresses := addresses } =
      Resolved.evaluated <$> output.resolve sandbox ctx := by
  cases htemplate : output.template? with
  | none => rw [resolve_of_template?_eq_none htemplate]
  | some template =>
    rw [resolve_of_template? htemplate, resolve_of_template? htemplate,
      map_evaluated_resolveFormula, map_evaluated_resolveFormula, evaluateFormula_addresses]

/-- The values of output columns do not depend on addresses. -/
theorem map_outputs_addresses (outputs : List OutputRule) :
    (fun result => result.1.outputs) <$>
        evaluateOutputs sandbox { ctx with addresses := addresses } outputs =
      (fun result => result.1.outputs) <$> evaluateOutputs sandbox ctx outputs := by
  induction outputs generalizing ctx with
  | nil => rfl
  | cons rule rest ih =>
    have hstep : ∀ ctx : Context,
        (fun result => result.1.outputs) <$> evaluateOutputs sandbox ctx (rule :: rest) =
          Resolved.evaluated <$> rule.output.resolve sandbox ctx >>= fun value =>
            (fun result => result.1.outputs) <$>
              evaluateOutputs sandbox (ctx.withOutput rule.header value) rest := by
      intro ctx
      simp only [evaluateOutputs, map_bind, bind_map_left, map_pure]
      rfl
    rw [hstep, hstep, Output.map_evaluated_addresses]
    exact bind_congr fun value => ih (ctx.withOutput rule.header value)

/-- Judges a row: the values of its outputs, the latest first, and whether it is kept. -/
def judgeRow (sandbox : Sandbox σ ε) (rules : RuleSet) (ctx : Context) :
    Evaluation σ ε (Bindings Cell × Bool) := do
  let (last, _) ← evaluateOutputs sandbox ctx rules.outputs
  let passed ← passesAll sandbox last rules.filters
  return (last.outputs, passed)

/-- Whether a row is kept follows from the values of its outputs. -/
theorem judgeRow_eq (rules : RuleSet) :
    judgeRow sandbox rules ctx =
      (fun result => result.1.outputs) <$> evaluateOutputs sandbox ctx rules.outputs >>=
        fun outputs => (outputs, ·) <$>
          passesAll sandbox { ctx with outputs := outputs } rules.filters := by
  rw [judgeRow, bind_map_left]
  refine (satisfies_evaluateOutputs_context ctx rules.outputs).bind_congr fun result hresult => ?_
  rw [← hresult, ← bind_pure_comp]

/-- A row is judged in the same way whatever its addresses are. -/
theorem judgeRow_addresses (rules : RuleSet) :
    judgeRow sandbox rules { ctx with addresses := addresses } = judgeRow sandbox rules ctx := by
  rw [judgeRow_eq, judgeRow_eq, map_outputs_addresses]
  exact bind_congr fun outputs => congrArg ((outputs, ·) <$> ·)
    (passesAll_addresses { ctx with outputs := outputs } addresses rules.filters)

/-- A row has cells exactly if it is judged to be kept. -/
theorem map_isSome_evaluateRow (rules : RuleSet) :
    Option.isSome <$> evaluateRow sandbox rules ctx = Prod.snd <$> judgeRow sandbox rules ctx := by
  simp only [evaluateRow, judgeRow, map_bind, map_pure]
  refine bind_congr fun result => bind_congr fun passed => ?_
  cases passed <;> rfl

end Addresses

section Rows

variable {σ ε : Type} {sandbox : Sandbox σ ε} {source : Source} {rules : RuleSet}

/-- How many rows are kept does not depend on how many have been kept before. -/
theorem map_length_processRows (kept : Nat) (rows : List (List Text)) :
    List.length <$> processRows sandbox source rules kept rows =
      List.length <$> processRows sandbox source rules 0 rows := by
  induction rows generalizing kept with
  | nil => rfl
  | cons row rest ih =>
    -- One row counts if it is judged to be kept, and that is the same for all addresses.
    have hstep : ∀ kept, List.length <$> processRows sandbox source rules kept (row :: rest) =
        Prod.snd <$> judgeRow sandbox rules (rowContext source rules row 0) >>= fun passed =>
          (if passed then (· + 1) else id) <$> List.length <$>
            processRows sandbox source rules 0 rest := by
      intro kept
      have hjudge : Option.isSome <$> evaluateRow sandbox rules
          (rowContext source rules row (firstDataRow + kept)) =
            Prod.snd <$> judgeRow sandbox rules (rowContext source rules row 0) := by
        rw [map_isSome_evaluateRow]
        exact congrArg (Prod.snd <$> ·) (judgeRow_addresses (rowContext source rules row 0)
          (rules.addresses (firstDataRow + kept)) rules)
      rw [processRows_cons, ← hjudge, map_bind, bind_map_left]
      refine bind_congr fun result => ?_
      cases result with
      | none => simp [ih kept]
      | some cells =>
        rw [← ih (kept + 1)]
        simp
    rw [hstep, hstep]

/-- Two tables one below the other: the rows of the second one continue those that have been
kept of the first one. -/
theorem processRows_append (kept : Nat) (upper lower : List (List Text)) :
    processRows sandbox source rules kept (upper ++ lower) = (do
      let first ← processRows sandbox source rules kept upper
      let second ← processRows sandbox source rules (kept + first.length) lower
      return first ++ second) := by
  induction upper generalizing kept with
  | nil => simp [processRows]
  | cons row rest ih =>
    rw [List.cons_append, processRows_cons, processRows_cons, bind_assoc]
    refine bind_congr fun result => ?_
    cases result with
    | none => exact ih kept
    | some cells => simp [ih, Nat.add_assoc, Nat.add_comm 1]

/-- Of a table only its headers play a part in processing rows. -/
theorem processRows_eq_of_headers (columns : List Text) (others : List (List Text)) (kept : Nat)
    (rows : List (List Text)) :
    processRows sandbox ⟨columns, others⟩ rules kept rows =
      processRows sandbox ⟨columns, []⟩ rules kept rows := by
  induction rows generalizing kept with
  | nil => rfl
  | cons row rest ih =>
    rw [processRows_cons, processRows_cons]
    refine bind_congr fun result => ?_
    cases result with
    | none => exact ih kept
    | some cells => simp only [ih]

/-- No more rows are kept than there are. -/
theorem satisfies_processRows_length (kept : Nat) (rows : List (List Text)) :
    Satisfies (fun _ => True) (fun cells => cells.length ≤ rows.length) (fun _ _ => True)
      (processRows sandbox source rules kept rows) := by
  rw [processRows_eq_map, ← bind_pure_comp]
  refine (satisfies_processHistory source rules kept rows).bind fun history h => .pure ?_
  rw [List.length_map, ← h.source_eq, List.length_map]
  exact List.length_filter_le _ _

/-- What is processed of a row is what it is judged to be, with cells if it is kept. -/
theorem run_processRow_of_judgeRow {ctx : Context} {s s' : σ} {outputs : Bindings Cell}
    {passed : Bool} (h : outcome (judgeRow sandbox rules ctx) s = (.ok (outputs, passed), s')) :
    ∃ cells, (processRow sandbox rules ctx).run s = (⟨outputs, .ok cells⟩, s') ∧
      cells.isSome = passed := by
  obtain ⟨⟨last, cells⟩, t, houtputs, h⟩ := outcome_bind_eq_ok_iff.mp h
  obtain ⟨kept, t', hfilters, h⟩ := outcome_bind_eq_ok_iff.mp h
  simp only [outcome_pure, Prod.mk.injEq, Except.ok.injEq] at h
  obtain ⟨⟨rfl, rfl⟩, rfl⟩ := h
  obtain ⟨last', hrun, hlast⟩ := run_computeOutputs houtputs
  obtain rfl : last = last' := hlast _ rfl
  refine ⟨if kept then some cells else none, ?_, by cases kept <;> rfl⟩
  rw [run_processRow_eq, hrun]
  simp only [Except.map, hfilters]

end Rows

section Stateless

variable {σ ε α β : Type}

/-- From every state an evaluation gives the value and submits the texts, the latest first. -/
def Yields (x : Evaluation (σ × List Text) ε α) (a : α) (submitted : List Text) : Prop :=
  ∀ s before, ∃ s', outcome x (s, before) = (.ok a, (s', submitted ++ before))

namespace Yields

variable {x : Evaluation (σ × List Text) ε α} {a : α} {submitted : List Text}

/-- A value by itself submits nothing. -/
theorem pure (a : α) : Yields (pure a : Evaluation (σ × List Text) ε α) a [] :=
  fun s _ => ⟨s, rfl⟩

/-- The texts of two steps are those of the first one and those of the second one. -/
theorem bind {f : α → Evaluation (σ × List Text) ε β} {b : β} {later : List Text}
    (hx : Yields x a submitted) (hf : Yields (f a) b later) :
    Yields (x >>= f) b (later ++ submitted) := by
  intro s before
  obtain ⟨t, ht⟩ := hx s before
  obtain ⟨s', hs⟩ := hf t (submitted ++ before)
  rw [List.append_assoc]
  exact ⟨s', outcome_bind_eq_ok_iff.mpr ⟨a, _, ht, hs⟩⟩

/-- A function of the value submits nothing. -/
theorem map (h : Yields x a submitted) (f : α → β) : Yields (f <$> x) (f a) submitted := by
  intro s before
  obtain ⟨s', hs⟩ := h s before
  exact ⟨s', by rw [outcome_map, hs]; rfl⟩

/-- An evaluation yields one value and one list of texts. -/
theorem unique [Nonempty σ] {b : α} {others : List Text} (h : Yields x a submitted)
    (h' : Yields x b others) : a = b ∧ submitted = others := by
  obtain ⟨s⟩ := ‹Nonempty σ›
  obtain ⟨t, ht⟩ := h s []
  obtain ⟨t', ht'⟩ := h' s []
  rw [ht] at ht'
  simp only [Prod.mk.injEq, Except.ok.injEq, List.append_nil] at ht'
  exact ⟨ht'.1, ht'.2.2⟩

/-- What holds of every value holds of the one that is yielded. -/
theorem post [Nonempty σ] {post : α → Prop} (h : Yields x a submitted)
    (hx : Satisfies (fun _ => True) post (fun _ _ => True) x) : post a := by
  obtain ⟨s⟩ := ‹Nonempty σ›
  obtain ⟨t, ht⟩ := h s []
  have hpost := hx (s, []) trivial
  rw [ht] at hpost
  exact hpost.2

end Yields

/-- Yielding a value and texts that depend on no state. -/
def EvaluationLogic.stateless : EvaluationLogic (σ × List Text) ε where
  Holds post x := ∃ a submitted, post a ∧ Yields x a submitted
  pure h := ⟨_, [], h, .pure _⟩
  bind := by
    rintro _ _ post next x f ⟨a, submitted, ha, hx⟩ hf
    obtain ⟨b, later, hb, hf⟩ := hf a ha
    exact ⟨b, later ++ submitted, hb, hx.bind hf⟩

/-- A sandbox that answers every text by a function, whatever state it is in. -/
def Sandbox.Computes (sandbox : Sandbox σ ε) (answer : Text → Cell) : Prop :=
  ∀ formula s, ∃ s', outcome (sandbox formula) s = (.ok (answer formula), s')

variable {sandbox : Sandbox σ ε} {answer : Text → Cell}

/-- A submission yields the answer and nothing but its text. -/
theorem Sandbox.Computes.yields (h : sandbox.Computes answer) (t : Text) :
    Yields (submit sandbox.recorded t) (answer t) [t] := by
  intro s before
  obtain ⟨s', hs⟩ := h t s
  exact ⟨s', outcome_adapt_eq_ok_iff.mpr (by rw [outcome_recorded, hs]; rfl)⟩

/-- All submissions to a sandbox that answers by a function depend on no state. -/
theorem Sandbox.Computes.sound (h : sandbox.Computes answer) (submission : Submission) :
    submission.Sound sandbox.recorded .stateless :=
  fun ctx => ⟨_, _, trivial, h.yields (submission.text ctx)⟩

variable {headers : List Text} {mapping : List (Text × Text)} {rules : RuleSet}

/-- A row is judged in one way, whatever its position and its addresses are. -/
theorem RuleSet.exists_yields_judgeRow (hload : load headers mapping = .ok rules)
    (h : sandbox.Computes answer) (ctx : Context) :
    ∃ outputs kept submitted, Yields (judgeRow sandbox.recorded rules ctx) (outputs, kept)
      submitted := by
  have hsound : ∀ s ∈ rules.submissions, s.Sound sandbox.recorded .stateless :=
    fun s _ => h.sound s
  simp only [RuleSet.submissions, List.mem_append] at hsound
  obtain ⟨⟨last, cells⟩, first, -, houtputs⟩ :=
    EvaluationLogic.stateless.outputs (fun s hs => hsound s (.inl hs)) ctx
  obtain ⟨kept, later, -, hfilters⟩ := EvaluationLogic.stateless.filters
    (hasOperators_of_load hload) (fun s hs => hsound s (.inr hs)) last
  exact ⟨last.outputs, kept, _, houtputs.bind (hfilters.bind (.pure _))⟩

/-- What comes of a row is fixed: in every table with the same headers, for every output row
and with any addresses, its outputs get the same values, the same texts are submitted, and it
is kept or not. -/
def RuleSet.Fixes (rules : RuleSet) (sandbox : Sandbox σ ε) (columns row : List Text) : Prop :=
  ∃ outputs kept submitted, ∀ rows outputRow addresses s before, ∃ cells s',
    (processRow sandbox.recorded rules
        { rowContext ⟨columns, rows⟩ rules row outputRow with addresses := addresses }).run
        (s, before) = (⟨outputs, .ok cells⟩, (s', submitted ++ before)) ∧
      cells.isSome = kept

/-- What comes of a row is fixed by the rules and the answers of the sandbox. -/
theorem RuleSet.fixes_of_load (hload : load headers mapping = .ok rules)
    (h : sandbox.Computes answer) (columns row : List Text) : rules.Fixes sandbox columns row := by
  let ctx : Context := rowContext ⟨columns, []⟩ rules row firstDataRow
  obtain ⟨outputs, kept, submitted, hjudge⟩ := exists_yields_judgeRow hload h ctx
  refine ⟨outputs, kept, submitted, fun rows outputRow addresses s before => ?_⟩
  obtain ⟨s', hs⟩ := hjudge s before
  rw [← judgeRow_addresses ctx addresses] at hs
  obtain ⟨cells, hrun, hcells⟩ := run_processRow_of_judgeRow hs
  exact ⟨cells, s', hrun, hcells⟩

namespace Yields

variable {sandbox : Sandbox (σ × List Text) ε} {source : Source} {columns : List Text}
  {rows cells : List (List Text)} {submitted : List Text}

/-- A run yields the kept rows with the counts of rows. -/
theorem run (h : Yields (processRows sandbox ⟨columns, []⟩ rules 0 rows) cells submitted) :
    Yields (rules.run sandbox ⟨columns, rows⟩)
      ⟨rules.outputHeaders, cells, rows.length, rows.length - cells.length⟩ submitted := by
  rw [RuleSet.run, processRows_eq_of_headers, bind_pure_comp]
  exact h.map _

/-- Rows that are processed further down are kept in the same number, and submit the same. -/
theorem continued [Nonempty σ] {kept : Nat} {others : List (List Text)} {texts : List Text}
    (h : Yields (processRows sandbox source rules kept rows) others texts)
    (hrows : Yields (processRows sandbox source rules 0 rows) cells submitted) :
    others.length = cells.length ∧ texts = submitted := by
  have hcount := h.map List.length
  rw [map_length_processRows] at hcount
  exact hcount.unique (hrows.map List.length)

/-- Rows one below the other yield what both parts do. -/
theorem append {lower rest : List (List Text)} {later : List Text}
    (h : Yields (processRows sandbox source rules 0 rows) cells submitted)
    (hlower : Yields (processRows sandbox source rules cells.length lower) rest later) :
    Yields (processRows sandbox source rules 0 (rows ++ lower)) (cells ++ rest)
      (later ++ submitted) := by
  rw [processRows_append]
  refine h.bind ?_
  rw [Nat.zero_add, bind_pure_comp]
  exact hlower.map _

end Yields

/-- A run over two tables one below the other reads, drops and submits what the runs over each
of them do together. Its rows are those of the first run, followed by the kept rows of the
second table, processed for the output rows that come next. -/
def RuleSet.RunsInParts (rules : RuleSet) (sandbox : Sandbox σ ε) (columns : List Text)
    (upper lower : List (List Text)) : Prop :=
  ∃ first second rest submitted later,
    Yields (rules.run sandbox.recorded ⟨columns, upper⟩) first submitted ∧
    Yields (rules.run sandbox.recorded ⟨columns, lower⟩) second later ∧
    Yields (processRows sandbox.recorded ⟨columns, lower⟩ rules first.rows.length lower) rest
      later ∧
    rest.length = second.rows.length ∧
    Yields (rules.run sandbox.recorded ⟨columns, upper ++ lower⟩)
      ⟨rules.outputHeaders, first.rows ++ rest, first.rowsRead + second.rowsRead,
        first.rowsFiltered + second.rowsFiltered⟩ (later ++ submitted)

/-- Rows are independent: with a sandbox that answers by a function, a mapping that is loaded
transforms two tables one below the other as it transforms each of them, and what comes of a
row does not depend on the others. -/
theorem RuleSet.runsInParts_of_load (hload : load headers mapping = .ok rules)
    (h : sandbox.Computes answer) (columns : List Text) (upper lower : List (List Text)) :
    rules.RunsInParts sandbox columns upper lower ∧
      ∀ row, rules.Fixes sandbox columns row := by
  refine ⟨?_, fixes_of_load hload h columns⟩
  by_cases hstate : Nonempty σ
  · have hrows : ∀ kept rows, ∃ cells submitted, True ∧
        Yields (processRows sandbox.recorded ⟨columns, []⟩ rules kept rows) cells submitted :=
      fun kept rows => EvaluationLogic.stateless.rows (hasOperators_of_load hload)
        (fun submission _ => h.sound submission) ⟨columns, []⟩ kept rows
    obtain ⟨first, submitted, -, hfirst⟩ := hrows 0 upper
    obtain ⟨second, later, -, hsecond⟩ := hrows 0 lower
    obtain ⟨rest, _, -, hrest⟩ := hrows first.length lower
    obtain ⟨hlength, rfl⟩ := hrest.continued hsecond
    have hupper : first.length ≤ upper.length := hfirst.post (satisfies_processRows_length 0 upper)
    have hlower : second.length ≤ lower.length :=
      hsecond.post (satisfies_processRows_length 0 lower)
    have hread : (upper ++ lower).length = upper.length + lower.length := List.length_append
    have hfiltered : (upper ++ lower).length - (first ++ rest).length =
        (upper.length - first.length) + (lower.length - second.length) := by
      rw [List.length_append, List.length_append]
      omega
    have hboth := (hfirst.append hrest).run
    rw [hfiltered, hread] at hboth
    rw [← processRows_eq_of_headers columns lower] at hrest
    exact ⟨_, _, rest, submitted, _, hfirst.run, hsecond.run, hrest, hlength, hboth⟩
  · -- A sandbox that is in no state is never asked.
    let nothing : Transformed := ⟨rules.outputHeaders, [], 0, 0⟩
    exact ⟨nothing, nothing, [], [], [], fun s => absurd ⟨s⟩ hstate, fun s => absurd ⟨s⟩ hstate,
      fun s => absurd ⟨s⟩ hstate, rfl, fun s => absurd ⟨s⟩ hstate⟩

/-- The second table is written for the output rows below the first one, with the same values
and submissions as by itself. -/
theorem RuleSet.runsInParts_two_tables :
    ∃ rules, load ["N".toList] [("A".toList, "src[N]".toList),
        ("B".toList, "formula:=self[A]*2".toList),
        ("_filter:x".toList, "eval:src[N] != \"-\"".toList)] = .ok rules ∧
      outcome (rules.run (Sandbox.answering .text : Sandbox Unit Unit).recorded
          ⟨["N".toList], [["-".toList], ["5".toList]] ++ [["7".toList]]⟩) ((), []) =
        (.ok ⟨["A".toList, "B".toList],
          [["5".toList, "=A2*2".toList], ["7".toList, "=A3*2".toList]], 3, 1⟩,
          ((), ["=7*2".toList, "=5*2".toList, "=\"-\"*2".toList])) ∧
      rules.RunsInParts (.answering .text : Sandbox Unit Unit) ["N".toList]
        [["-".toList], ["5".toList]] [["7".toList]] ∧
      ∀ row, rules.Fixes (.answering .text : Sandbox Unit Unit) ["N".toList] row := by
  let rules : RuleSet :=
    ⟨[⟨"A".toList, .expression [⟨.sourceRef, "N".toList, "src[N]".toList⟩] "src[N]".toList true⟩,
        ⟨"B".toList, .formula "=self[A]*2".toList⟩],
      [⟨"x".toList, "eval:src[N] != \"-\"".toList, true,
        .anyOf [.comparison (.reference ⟨.source, "N".toList⟩) "!=".toList
          (.string "-".toList)]⟩]⟩
  have hload : load ["N".toList] [("A".toList, "src[N]".toList),
      ("B".toList, "formula:=self[A]*2".toList),
      ("_filter:x".toList, "eval:src[N] != \"-\"".toList)] = .ok rules := by
    decide +kernel
  have hcomputes : (.answering .text : Sandbox Unit Unit).Computes .text :=
    fun formula s => ⟨s, rfl⟩
  exact ⟨rules, hload, by decide +kernel, runsInParts_of_load hload hcomputes _ _ _⟩

end Stateless

end Rowscript
