import Rowscript.Proofs.Outcome
import Rowscript.Proofs.Reading

/-!
# Source columns that are looked up

A strict run is a run whose errors have one for a source column without a value, so that it
ends where such a column is looked up. When the mapping has been loaded against the headers of
the source table, a strict run is the run itself: every reference that can be looked up is
written in an instruction whose references were checked, and every header has a value in every
row.
-/

namespace Rowscript

/-- An error with the error of the sandbox renamed. -/
def EvaluationError.map {ε ε' : Type} (f : ε → ε') : EvaluationError ε → EvaluationError ε'
  | sandbox cause => .sandbox (f cause)
  | number cause => .number cause
  | unknownOperator symbol => .unknownOperator symbol
  | filterHasNoOutput => .filterHasNoOutput

namespace Strict

variable {σ ε α β : Type}

/-- The errors of a sandbox, and one for a source column without a value. -/
inductive Failure (ε : Type) where
  /-- A source column was looked up that has no value. -/
  | noValue (column : Text)
  /-- The sandbox could not compute a formula. -/
  | sandbox (cause : ε)
  deriving DecidableEq

/-- A source column that is looked up has to have a value. -/
instance Failure.lookup : Lookup (Failure ε) where
  noValue? r :=
    match r.origin with
    | .source => some (.noValue r.column)
    | .output => none

/-- A sandbox for strict evaluations, which computes what it computes otherwise. -/
def sandbox (sandbox : Sandbox σ ε) : Sandbox σ (Failure ε) :=
  fun formula => ExceptT.adapt Failure.sandbox (sandbox formula)

/-- Transforms a source table by a rule set, where every source column that is looked up has to
have a value. -/
def run (sandbox : Sandbox σ ε) (rules : RuleSet) (source : Source) :
    Evaluation σ (Failure ε) Transformed :=
  rules.run (Strict.sandbox sandbox) source

/-- An ordinary evaluation as a strict one. -/
def lift (x : Evaluation σ ε α) : Evaluation σ (Failure ε) α :=
  ExceptT.adapt (EvaluationError.map Failure.sandbox) x

@[simp] theorem lift_pure (a : α) : lift (pure a : Evaluation σ ε α) = pure a := rfl

@[simp] theorem lift_bind (x : Evaluation σ ε α) (f : α → Evaluation σ ε β) :
    lift (x >>= f) = lift x >>= fun a => lift (f a) :=
  adapt_bind (EvaluationError.map Failure.sandbox) x f

@[simp] theorem lift_map (f : α → β) (x : Evaluation σ ε α) : lift (f <$> x) = f <$> lift x := by
  rw [← bind_pure_comp, lift_bind, ← bind_pure_comp]
  rfl

/-- The strict sandbox is submitted the same formulas. -/
theorem submit_sandbox (sandbox : Sandbox σ ε) (formula : Text) :
    submit (Strict.sandbox sandbox) formula = lift (submit sandbox formula) := by
  refine ext_outcome fun s => ?_
  rw [submit, submit, lift, outcome_adapt, outcome_adapt, outcome_adapt, Strict.sandbox,
    outcome_adapt]
  rcases outcome (sandbox formula) s with ⟨_ | _, _⟩ <;> rfl

end Strict

/-- A source reference has a value in a context; nothing is asked of references to outputs. -/
def Context.Binds (ctx : Context) (r : Reference) : Prop :=
  r.origin = .source → ∃ value, ctx.source.lookup r.column = some value

section Filling

variable {m : Type → Type} [Monad m] [LawfulMonad m] (ctx : Context) (live : Bool)
  {text text' : Reference → m Text}

/-- Pieces are filled the same with texts that agree on their references. -/
theorem Context.mapM_fillPiece_congr {ps : List Piece}
    (h : ∀ r, Piece.reference r ∈ ps → text r = text' r) :
    ps.mapM (ctx.fillPiece live text) = ps.mapM (ctx.fillPiece live text') := by
  induction ps with
  | nil => rfl
  | cons piece rest ih =>
    have hpiece : ctx.fillPiece live text piece = ctx.fillPiece live text' piece := by
      cases piece with
      | char c => rfl
      | reference r =>
        cases live <;> cases haddress : ctx.address? r <;>
          simp [fillPiece, haddress, h r List.mem_cons_self]
    rw [List.mapM_cons, List.mapM_cons, hpiece,
      ih fun r hr => h r (List.mem_cons_of_mem piece hr)]

/-- A template is filled the same with texts that agree on its references. -/
theorem Context.fill_congr {template : Text} (h : ∀ r ∈ references template, text r = text' r) :
    ctx.fill live text template = ctx.fill live text' template := by
  rw [fill, fill, ctx.mapM_fillPiece_congr live fun r hr => h r (mem_references.mpr hr)]

end Filling

/-- The references that evaluating an operand looks up. -/
def Operand.lookups : Operand → List Reference
  | reference r => [r]
  | formula template => references template
  | compound _ raw => references raw
  | _ => []

/-- The references that evaluating a condition looks up. -/
def Condition.lookups : Condition → List Reference
  | formula template => references template
  | comparison left _ right => left.lookups ++ right.lookups

/-- The references that evaluating a filter may look up. -/
def FilterRule.lookups (rule : FilterRule) : List Reference :=
  if rule.active then
    match rule.test with
    | .formula template => references template
    | .anyOf conditions => conditions.flatMap Condition.lookups
  else []

/-- The references that computing an output may look up. -/
def Output.lookups : Output → List Reference
  | formula template => references template
  | expression _ raw _ => references raw
  | _ => []

/-- The references that processing a row may look up. -/
def RuleSet.lookups (rules : RuleSet) : List Reference :=
  rules.outputs.flatMap (fun rule => rule.output.lookups) ++
    rules.filters.flatMap FilterRule.lookups

namespace Strict

variable {σ ε : Type} {sandbox : Sandbox σ ε} {ctx : Context}

/-- A reference with a value is looked up as ever. -/
theorem lookupText_eq {r : Reference} (hr : ctx.Binds r) :
    (ctx.lookupText r : Evaluation σ (Failure ε) Text) = pure (ctx.substitute r) := by
  have hlookup : (ctx.lookup r : Evaluation σ (Failure ε) Cell) = pure (ctx.value r) := by
    rcases r with ⟨_ | _, column⟩
    · obtain ⟨v, hv⟩ := hr rfl
      have hvalue : ctx.value? ⟨.source, column⟩ = some v := hv
      rw [Context.lookup, hvalue]
    · rw [Context.lookup]
      cases ctx.value? ⟨.output, column⟩ <;> rfl
  rw [Context.lookupText, hlookup, pure_bind, Context.substitute]

/-- A template whose references have values is filled as ever. -/
theorem fillIn_eq (live : Bool) {template : Text} (h : ∀ r ∈ references template, ctx.Binds r) :
    (ctx.fillIn live template : Evaluation σ (Failure ε) Text) =
      pure (ctx.resolve live template) := by
  have htexts : ∀ r ∈ references template,
      (ctx.lookupText r : Evaluation σ (Failure ε) Text) = pure (ctx.substitute r) :=
    fun r hr => lookupText_eq (h r hr)
  rw [Context.fillIn, ctx.fill_congr live htexts, Context.fill_substitute]

/-- A formula whose references have values is evaluated as ever. -/
theorem evaluateFormula_eq {template : Text} (h : ∀ r ∈ references template, ctx.Binds r) :
    evaluateFormula (Strict.sandbox sandbox) ctx template =
      lift (evaluateFormula sandbox ctx template) := by
  have hfill : (ctx.forFormula.fillIn false template : Evaluation σ (Failure ε) Text) =
      pure (ctx.forFormula.resolve false template) := fillIn_eq false h
  rw [evaluateFormula, hfill, pure_bind, submit_sandbox, Rowscript.evaluateFormula_eq]

/-- An operand whose references have values is evaluated as ever. -/
theorem operand_eq {o : Operand} (h : ∀ r ∈ o.lookups, ctx.Binds r) :
    o.evaluate (Strict.sandbox sandbox) ctx = lift (o.evaluate sandbox ctx) := by
  cases o with
  | reference r =>
    rw [Operand.evaluate, lookupText_eq (h r List.mem_cons_self), pure_bind,
      Operand.evaluate_reference, lift_pure]
  | formula template => simp [Operand.evaluate, evaluateFormula_eq h]
  | compound tokens raw =>
    rw [Operand.evaluate, fillIn_eq false h, pure_bind, Operand.evaluate_compound, lift_pure]
  | _ => rfl

/-- Values are compared as ever. -/
theorem operator_eq (op : Operator) (x y : Cell) :
    (op.evaluate x y : Evaluation σ (Failure ε) Bool) = lift (op.evaluate x y) := by
  rw [Operator.evaluate, Operator.evaluate]
  cases op.holds x y <;> rfl

/-- A condition whose references have values is evaluated as ever. -/
theorem condition_eq {c : Condition} (h : ∀ r ∈ c.lookups, ctx.Binds r) :
    c.evaluate (Strict.sandbox sandbox) ctx = lift (c.evaluate sandbox ctx) := by
  cases c with
  | formula template => simp [Condition.evaluate, evaluateFormula_eq h]
  | comparison left symbol right =>
    simp only [Condition.lookups, List.mem_append] at h
    simp only [Condition.evaluate, operand_eq fun r hr => h r (.inl hr),
      operand_eq fun r hr => h r (.inr hr)]
    cases Operator.ofSymbol? symbol with
    | none => rfl
    | some op => simp [operator_eq]

/-- Conditions whose references have values are tried as ever. -/
theorem anyHolds_eq {conditions : List Condition}
    (h : ∀ r ∈ conditions.flatMap Condition.lookups, ctx.Binds r) :
    anyHolds (Strict.sandbox sandbox) ctx conditions = lift (anyHolds sandbox ctx conditions) := by
  induction conditions with
  | nil => rfl
  | cons c rest ih =>
    simp only [List.flatMap_cons, List.mem_append] at h
    rw [anyHolds, anyHolds, lift_bind, condition_eq fun r hr => h r (.inl hr),
      ih fun r hr => h r (.inr hr)]
    congr 1
    funext holds
    cases holds <;> rfl

/-- A filter whose references have values is evaluated as ever. -/
theorem passes_eq {rule : FilterRule} (h : ∀ r ∈ rule.lookups, ctx.Binds r) :
    rule.passes (Strict.sandbox sandbox) ctx = lift (rule.passes sandbox ctx) := by
  rcases rule with ⟨name, raw, active, test⟩
  cases active with
  | false => rfl
  | true =>
    cases test with
    | formula template =>
      have hformula : ∀ r ∈ references template, ctx.Binds r := h
      simp [FilterRule.passes, evaluateFormula_eq hformula]
    | anyOf conditions => exact anyHolds_eq h

/-- A formula column whose references have values is computed as ever. -/
theorem resolveFormula_eq {template : Text} (h : ∀ r ∈ references template, ctx.Binds r) :
    resolveFormula (Strict.sandbox sandbox) ctx template =
      lift (resolveFormula sandbox ctx template) := by
  have hfill : (ctx.forFormula.fillIn true template : Evaluation σ (Failure ε) Text) =
      pure (ctx.forFormula.resolve true template) := fillIn_eq true h
  rw [resolveFormula, hfill, pure_bind, evaluateFormula_eq h, Rowscript.resolveFormula_eq]
  simp

/-- An output whose references have values is computed as ever. -/
theorem output_eq {o : Output} (h : ∀ r ∈ o.lookups, ctx.Binds r) :
    o.resolve (Strict.sandbox sandbox) ctx = lift (o.resolve sandbox ctx) := by
  cases o with
  | direct column => rfl
  | constant value => rfl
  | formula template => exact resolveFormula_eq h
  | expression tokens raw hasReference =>
    have hfill : (ctx.forDisplay.fillIn false raw : Evaluation σ (Failure ε) Text) =
        pure (ctx.forDisplay.resolve false raw) := fillIn_eq false h
    rw [Output.resolve_expression, Output.resolve, hfill, pure_bind, resolveFormula_eq h,
      submit_sandbox]
    split
    · split
      · rfl
      · simp
    · rfl

/-- Output columns whose references have values are computed as ever. -/
theorem outputs_eq {rules : List OutputRule}
    (h : ∀ r ∈ rules.flatMap (fun rule => rule.output.lookups), ctx.Binds r) :
    evaluateOutputs (Strict.sandbox sandbox) ctx rules =
      lift (evaluateOutputs sandbox ctx rules) := by
  induction rules generalizing ctx with
  | nil => rfl
  | cons rule rest ih =>
    simp only [List.flatMap_cons, List.mem_append] at h
    rw [evaluateOutputs, evaluateOutputs, lift_bind, output_eq fun r hr => h r (.inl hr)]
    congr 1
    funext resolved
    let next := ctx.withOutput rule.header resolved.evaluated
    have hrest : evaluateOutputs (Strict.sandbox sandbox) next rest =
        lift (evaluateOutputs sandbox next rest) :=
      ih fun r hr => h r (.inr hr)
    rw [hrest, lift_bind]
    rfl

/-- Filters whose references have values are evaluated as ever. -/
theorem passesAll_eq {filters : List FilterRule}
    (h : ∀ r ∈ filters.flatMap FilterRule.lookups, ctx.Binds r) :
    passesAll (Strict.sandbox sandbox) ctx filters = lift (passesAll sandbox ctx filters) := by
  induction filters with
  | nil => rfl
  | cons rule rest ih =>
    simp only [List.flatMap_cons, List.mem_append] at h
    rw [passesAll, passesAll, lift_bind, passes_eq fun r hr => h r (.inl hr),
      ih fun r hr => h r (.inr hr)]
    congr 1
    funext passed
    cases passed <;> rfl

/-- A row whose references have values is evaluated as ever. -/
theorem row_eq {rules : RuleSet} (h : ∀ r ∈ rules.lookups, ctx.Binds r) :
    evaluateRow (Strict.sandbox sandbox) rules ctx = lift (evaluateRow sandbox rules ctx) := by
  simp only [RuleSet.lookups, List.mem_append] at h
  rw [evaluateRow, evaluateRow, outputs_eq fun r hr => h r (.inl hr), lift_bind]
  refine ((satisfies_evaluateOutputs_context ctx rules.outputs).adapt
    fun _ _ _ => True.intro).bind_congr ?_
  rintro ⟨last, cells⟩ hsource
  -- The filters see later outputs but the same source values.
  have hlast : ∀ r ∈ rules.filters.flatMap FilterRule.lookups, last.Binds r := by
    intro r hr
    rw [show last = _ from hsource]
    exact h r (.inr hr)
  simp [passesAll_eq hlast]

/-- Rows of a table are processed as ever when their contexts have the values. -/
theorem rows_eq {source : Source} {rules : RuleSet}
    (h : ∀ row outputRow, ∀ r ∈ rules.lookups, (rowContext source rules row outputRow).Binds r)
    (kept : Nat) (table : List (List Text)) :
    processRows (Strict.sandbox sandbox) source rules kept table =
      lift (processRows sandbox source rules kept table) := by
  induction table generalizing kept with
  | nil => rfl
  | cons cells rest ih =>
    rw [processRows_cons, processRows_cons, lift_bind, row_eq (h cells _)]
    congr 1
    funext result
    cases result with
    | none => exact ih kept
    | some cells => simp [ih]

/-- A table is transformed as ever when its rows have the values. -/
theorem run_eq {source : Source} {rules : RuleSet}
    (h : ∀ row outputRow, ∀ r ∈ rules.lookups, (rowContext source rules row outputRow).Binds r) :
    run sandbox rules source = lift (rules.run sandbox source) := by
  rw [run, RuleSet.run, rows_eq h, RuleSet.run, lift_bind]
  rfl

end Strict

/-- What a token stands for looks up only what is written in the token. -/
theorem Token.Shape.lookups_subset {token : Token} (h : token.Shape) :
    (Operand.ofToken token).lookups ⊆ references token.raw := by
  cases h with
  | reference r hr =>
    have hlookups : (Operand.ofToken (ofReference r)).lookups = [r] := by
      rcases r with ⟨_ | _, column⟩ <;> rfl
    rw [hlookups, raw_ofReference]
    simpa using mem_references_iff.mpr ⟨hr, List.infix_rfl⟩
  | formula hne hbody => exact List.Subset.refl _
  | _ => exact List.nil_subset _

/-- What lexemes stand for looks up only what is written in their text. -/
theorem lookups_ofLexemes_subset {t : Text} {ls : List Lexeme} (hls : ls <:+: lexemes t) :
    (Operand.ofLexemes ls).lookups ⊆ references t := by
  have hcompound : references (trimmedText ls) ⊆ references t :=
    references_subset_of_isInfix ((Text.trim_isInfix _).trans (flatMap_render_isInfix hls))
  rcases ls with _ | ⟨l, _ | ⟨l', rest⟩⟩
  · exact hcompound
  · have hl : l ∈ lexemes t := hls.subset List.mem_cons_self
    have htoken := (shape_of_mem_lexemes hl).lookups_subset
    exact List.Subset.trans htoken (references_subset_of_isInfix (raw_infix_of_mem_lexemes hl))
  · exact hcompound

/-- A condition looks up only what is written in the text it is read from. -/
theorem Condition.ReadFrom.lookups_subset {t : Text} {c : Condition} (h : ReadFrom t c) :
    c.lookups ⊆ references t := by
  cases h with
  | @comparison left right operator hsplit _ _ _ _ =>
    refine List.append_subset.mpr ⟨lookups_ofLexemes_subset ?_, lookups_ofLexemes_subset ?_⟩
    · exact ⟨[], operator :: right, hsplit.symm⟩
    · exact ⟨left ++ [operator], [], by simp [hsplit]⟩
  | formula _ _ _ => exact List.Subset.refl _

/-- A filter that is read looks up known columns only. -/
theorem FilterRule.ReadFrom.known {headers : List Text} {name raw : Text} {rule : FilterRule}
    (h : ReadFrom headers name raw rule) :
    ∀ r ∈ rule.lookups, r.origin = .source → r.column ∈ headers := by
  cases h with
  | note => simp [FilterRule.lookups]
  | formula hraw htext hstart hknown => exact hknown
  | anyOf hraw hknown hconditions =>
    intro r hr
    obtain ⟨c, hc, hr⟩ := List.mem_flatMap.mp hr
    obtain ⟨piece, hpiece, hread⟩ := exists_of_mem_forall₂ hconditions hc
    have hpart := (infix_of_mem_splitAlternatives _).1 piece hpiece
    exact hknown.of_isInfix ((Text.trim_isInfix piece).trans hpart) r (hread.lookups_subset hr)

/-- An output that is read looks up known columns only. -/
theorem Output.ReadFrom.known {headers : List Text} {raw : Text} {o : Output}
    (h : ReadFrom headers raw o) : ∀ r ∈ o.lookups, r.origin = .source → r.column ∈ headers := by
  cases h with
  | constant value => simp [Output.lookups]
  | formula hstart hknown => exact hknown
  | direct hraw hknown htoken => simp [Output.lookups]
  | expression hraw hknown htokens => exact hknown

/-- A mapping that is loaded looks up known columns only. -/
theorem RuleSet.column_mem_of_load {headers : List Text} {mapping : List (Text × Text)}
    {rules : RuleSet} (hload : load headers mapping = .ok rules) {r : Reference}
    (hr : r ∈ rules.lookups) (hsource : r.origin = .source) : r.column ∈ headers := by
  rcases List.mem_append.mp hr with hr | hr
  · obtain ⟨rule, hrule, hr⟩ := List.mem_flatMap.mp hr
    obtain ⟨raw, hread⟩ := exists_readFrom_of_mem_outputs hload hrule
    exact hread.known r hr hsource
  · obtain ⟨rule, hrule, hr⟩ := List.mem_flatMap.mp hr
    obtain ⟨name, raw, hread⟩ := exists_readFrom_of_mem_filters hload hrule
    exact hread.known r hr hsource

/-- A row that is brought to the length of the header is as long as the header. -/
theorem Source.length_fit (source : Source) (row : List Text) :
    (source.fit row).length = source.headers.length := by
  simp only [Source.fit, List.length_append, List.length_take, List.length_replicate]
  omega

/-- Every header has a value in every row, however long the row is. -/
theorem exists_lookup_of_mem_headers {source : Source} (rules : RuleSet) (row : List Text)
    (outputRow : Nat) {column : Text} (hcolumn : column ∈ source.headers) :
    ∃ value, (rowContext source rules row outputRow).source.lookup column = some value := by
  have hlength := source.length_fit row
  have hzip : column ∈ (source.headers.zip (source.fit row)).map Prod.fst := by
    rw [List.map_fst_zip hlength.ge]
    exact hcolumn
  obtain ⟨binding, hbinding, hname⟩ := List.mem_map.mp hzip
  rw [← Option.isSome_iff_exists, List.lookup_isSome_iff]
  refine ⟨(column, .text binding.2), ?_, by simp⟩
  rw [← hname]
  exact List.mem_map_of_mem (List.mem_reverse.mpr hbinding)

/-- A strict evaluation that is an ordinary one never ends at a column without a value. -/
theorem Strict.outcome_lift_ne_noValue {σ ε α : Type} (x : Evaluation σ ε α) (s : σ)
    (column : Text) : (outcome (lift x) s).1 ≠ .error (.sandbox (.noValue column)) := by
  rw [lift, outcome_adapt]
  rcases outcome x s with ⟨e | _, s'⟩
  · cases e <;> simp [Except.mapError, EvaluationError.map]
  · simp [Except.mapError]

/-- No source column without a value is ever looked up when a mapping is run on a table with
the headers it was loaded against: whatever the rows and the sandbox are, the strict run is
the run, it does not end at a missing value, and every reference to a source column that the
rules can look up has a value in every row. -/
theorem RuleSet.strict_run_of_load {σ ε : Type} {headers : List Text}
    {mapping : List (Text × Text)} {rules : RuleSet} (hload : load headers mapping = .ok rules)
    {source : Source} (hsource : source.headers = headers) (sandbox : Sandbox σ ε) :
    Strict.run sandbox rules source = Strict.lift (rules.run sandbox source) ∧
      (∀ s column, (outcome (Strict.run sandbox rules source) s).1 ≠
        .error (.sandbox (.noValue column))) ∧
      ∀ row outputRow, ∀ r ∈ rules.lookups, (rowContext source rules row outputRow).Binds r := by
  have hbinds : ∀ row outputRow, ∀ r ∈ rules.lookups,
      (rowContext source rules row outputRow).Binds r := fun row outputRow r hr horigin =>
    exists_lookup_of_mem_headers rules row outputRow
      (hsource ▸ column_mem_of_load hload hr horigin)
  have hrun : Strict.run sandbox rules source = Strict.lift (rules.run sandbox source) :=
    Strict.run_eq hbinds
  refine ⟨hrun, fun s column => ?_, hbinds⟩
  rw [hrun]
  exact Strict.outcome_lift_ne_noValue _ s column

/-- Columns are looked up in a row that is shorter than the header without a miss. -/
theorem RuleSet.strict_run_short_row :
    ∃ rules, load ["A".toList, "B".toList]
        [("T".toList, "src[B]".toList), ("U".toList, "formula:=src[B]*2".toList)] = .ok rules ∧
      rules.lookups = [⟨.source, "B".toList⟩, ⟨.source, "B".toList⟩] ∧
      Strict.run (fun _ => pure .missing : Sandbox Unit Unit) rules
          ⟨["A".toList, "B".toList], [["1".toList]]⟩ =
        Strict.lift (run (fun _ => pure .missing) rules
          ⟨["A".toList, "B".toList], [["1".toList]]⟩) := by
  have hload : load ["A".toList, "B".toList]
      [("T".toList, "src[B]".toList), ("U".toList, "formula:=src[B]*2".toList)] =
      .ok ⟨[⟨"T".toList, .expression [⟨.sourceRef, "B".toList, "src[B]".toList⟩]
        "src[B]".toList true⟩, ⟨"U".toList, .formula "=src[B]*2".toList⟩], []⟩ := by
    decide +kernel
  exact ⟨_, hload, by decide +kernel, (strict_run_of_load hload rfl _).1⟩

/-- On a table with other headers a strict run ends at the column that is missing. -/
example : (outcome (Strict.run (fun _ => pure .missing : Sandbox Unit Unit)
    ⟨[⟨"U".toList, .formula "=src[B]*2".toList⟩], []⟩ ⟨["A".toList], [["1".toList]]⟩) ()).1 =
      .error (.sandbox (.noValue "B".toList)) := by
  decide +kernel

end Rowscript
