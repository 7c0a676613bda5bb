import Rowscript.Proofs.Outcome
import Rowscript.Proofs.Reading

/-!
# What a run submits

The texts that a rule set may submit can be read off its rules: formulas of outputs and of
filters, with the values of a row put in the place of references. What holds of
submitting each of these texts holds of a whole run, in every logic of evaluations that
allows for values and for steps one after the other, because nothing else that a run does
asks the sandbox or can fail.
-/

namespace Rowscript

/-- A text that a rule submits: a template whose references become literals, or a text as it
is written. -/
inductive Submission where
  | template (t : Text)
  | verbatim (t : Text)
  deriving DecidableEq, Repr

/-- How a submission is written in its rule. -/
def Submission.written : Submission → Text
  | template t => t
  | verbatim t => t

/-- The text that is submitted in a context. -/
def Submission.text (ctx : Context) : Submission → Text
  | template t => ctx.forFormula.resolve false t
  | verbatim t => t

/-- What evaluating an operand submits. -/
def Operand.submissions : Operand → List Submission
  | formula template => [.template template]
  | _ => []

/-- What evaluating a condition submits. -/
def Condition.submissions : Condition → List Submission
  | formula template => [.template template]
  | comparison left _ right => left.submissions ++ right.submissions

/-- What evaluating a filter may submit. -/
def FilterRule.submissions (rule : FilterRule) : List Submission :=
  if rule.active then
    match rule.test with
    | .formula template => [.template template]
    | .anyOf conditions => conditions.flatMap Condition.submissions
  else []

/-- What computing an output column submits. -/
def Output.submissions : Output → List Submission
  | formula template => [.template template]
  | expression _ raw hasReference =>
    if raw.head? = some '=' then [if hasReference then .template raw else .verbatim raw] else []
  | _ => []

/-- What processing a row by a rule set may submit. -/
def RuleSet.submissions (rules : RuleSet) : List Submission :=
  rules.outputs.flatMap (fun rule => rule.output.submissions) ++
    rules.filters.flatMap FilterRule.submissions

/-- A condition compares by an operator that exists. -/
def Condition.HasOperator : Condition → Prop
  | comparison _ symbol _ => ∃ op, Operator.ofSymbol? symbol = some op
  | formula _ => True

/-- The conditions of an evaluated filter compare by operators that exist. -/
def FilterRule.HasOperators (rule : FilterRule) : Prop :=
  rule.active = true → ∀ conditions, rule.test = .anyOf conditions →
    ∀ c ∈ conditions, c.HasOperator

/-- Every operator is found by its symbol. -/
theorem Operator.ofSymbol?_symbol (op : Operator) : ofSymbol? op.symbol = some op := by
  cases op <;> decide

/-- A comparison is cut at the symbol of an operator. -/
theorem Condition.ReadFrom.hasOperator {t : Text} {c : Condition} (h : ReadFrom t c) :
    c.HasOperator := by
  cases h with
  | @comparison left right operator hsplit _ hkind _ _ =>
    have hmem : operator ∈ lexemes t := by simp [hsplit]
    obtain ⟨op, hop⟩ := (shape_of_mem_lexemes hmem).eq_operator hkind
    rw [hop]
    exact ⟨op, op.ofSymbol?_symbol⟩
  | formula _ _ _ => trivial

/-- A filter that is read compares by operators only. -/
theorem FilterRule.ReadFrom.hasOperators {headers : List Text} {name raw : Text}
    {rule : FilterRule} (h : ReadFrom headers name raw rule) : rule.HasOperators := by
  intro hactive conditions htest c hc
  cases h with
  | note => simp at hactive
  | formula _ _ _ _ => simp at htest
  | anyOf _ _ hconditions =>
    obtain rfl := FilterTest.anyOf.inj htest
    obtain ⟨piece, -, hread⟩ := exists_of_mem_forall₂ hconditions hc
    exact hread.hasOperator

/-- The filters of a mapping that is loaded compare by operators only. -/
theorem RuleSet.hasOperators_of_load {headers : List Text} {mapping : List (Text × Text)}
    {rules : RuleSet} (hload : load headers mapping = .ok rules) :
    ∀ rule ∈ rules.filters, rule.HasOperators := by
  intro rule hrule
  obtain ⟨name, raw, hread⟩ := exists_readFrom_of_mem_filters hload hrule
  exact hread.hasOperators

/-- A value is no whole number of unlimited size. -/
def Cell.Bounded (c : Cell) : Prop := ∀ n, c ≠ .integer n

namespace Cell

/-- A bounded value stands for a number. -/
theorem Bounded.toNumber {c : Cell} (h : c.Bounded) : ∃ x, c.toNumber = .ok x := by
  cases c with
  | missing => exact ⟨_, rfl⟩
  | bool value => exact ⟨_, rfl⟩
  | text value =>
    simp only [Cell.toNumber]
    split
    · exact ⟨_, rfl⟩
    · split <;> exact ⟨_, rfl⟩
  | integer n => exact absurd rfl (h n)
  | number value => exact ⟨_, rfl⟩

/-- A bounded value has a number by which it is ordered. -/
theorem Bounded.leadingNumber {c : Cell} (h : c.Bounded) : ∃ x, c.leadingNumber = .ok x := by
  cases c with
  | integer n => exact absurd rfl (h n)
  | _ => exact ⟨_, rfl⟩

/-- Bounded values can be compared for equality. -/
theorem Bounded.looselyEqual {c d : Cell} (hc : c.Bounded) (hd : d.Bounded) :
    ∃ b, c.looselyEqual d = .ok b := by
  obtain ⟨x, hx⟩ := hc.toNumber
  obtain ⟨y, hy⟩ := hd.toNumber
  unfold Cell.looselyEqual
  split
  · exact ⟨_, rfl⟩
  · split
    · rw [hx, hy]
      exact ⟨_, rfl⟩
    · exact ⟨_, rfl⟩

end Cell

namespace Operator

/-- Bounded values can be compared in order. -/
theorem ordered_of_bounded (relation : Binary64 → Binary64 → Bool) {c d : Cell}
    (hc : c.Bounded) (hd : d.Bounded) : ∃ b, ordered relation c d = .ok b := by
  obtain ⟨x, hx⟩ := hc.leadingNumber
  obtain ⟨y, hy⟩ := hd.leadingNumber
  rw [ordered, hx, hy]
  exact ⟨_, rfl⟩

/-- Every operator can compare bounded values. -/
theorem holds_of_bounded (op : Operator) {c d : Cell} (hc : c.Bounded) (hd : d.Bounded) :
    ∃ b, op.holds c d = .ok b := by
  obtain ⟨b, hb⟩ := hc.looselyEqual hd
  cases op with
  | equal => exact ⟨b, hb⟩
  | notEqual =>
    rw [holds, hb]
    exact ⟨_, rfl⟩
  | _ => exact ordered_of_bounded _ hc hd

end Operator

/-- A way to reason about evaluations: which claims hold of their values, when they hold of
values as such and of steps one after the other. -/
structure EvaluationLogic (σ ε : Type) where
  /-- An evaluation comes to a value of the given kind, in the sense of the logic. -/
  Holds {α : Type} (post : α → Prop) (x : Evaluation σ ε α) : Prop
  pure {α : Type} {post : α → Prop} {a : α} (h : post a) : Holds post (Pure.pure a)
  bind {α β : Type} {post : α → Prop} {next : β → Prop} {x : Evaluation σ ε α}
    {f : α → Evaluation σ ε β} (hx : Holds post x) (hf : ∀ a, post a → Holds next (f a)) :
    Holds next (x >>= f)

section Logic

variable {σ ε : Type} {sandbox : Sandbox σ ε} (logic : EvaluationLogic σ ε)

/-- In every context the logic holds of making a submission. -/
def Submission.Sound (sandbox : Sandbox σ ε) (logic : EvaluationLogic σ ε)
    (submission : Submission) : Prop :=
  ∀ ctx, logic.Holds (fun _ => True) (submit sandbox (submission.text ctx))

namespace EvaluationLogic

/-- The logic holds of evaluating a formula when it holds of submitting it. -/
theorem formula {template : Text} (hsound : (Submission.template template).Sound sandbox logic)
    (ctx : Context) : logic.Holds (fun _ => True) (evaluateFormula sandbox ctx template) := by
  rw [evaluateFormula_eq]
  exact hsound ctx

/-- The logic holds of a formula column when it holds of submitting the formula. -/
theorem formulaColumn {template : Text}
    (hsound : (Submission.template template).Sound sandbox logic) (ctx : Context) :
    logic.Holds (fun _ => True) (resolveFormula sandbox ctx template) := by
  rw [resolveFormula_eq]
  exact logic.bind (logic.formula hsound ctx) fun c _ => logic.pure trivial

/-- An operand has a bounded value: references become text and formulas truth values. -/
theorem operand {operand : Operand} (hsound : ∀ s ∈ operand.submissions, s.Sound sandbox logic)
    (ctx : Context) : logic.Holds Cell.Bounded (operand.evaluate sandbox ctx) := by
  cases operand with
  | reference r =>
    rw [Operand.evaluate_reference]
    exact logic.pure fun n => by simp
  | compound tokens raw =>
    rw [Operand.evaluate_compound]
    exact logic.pure fun n => by simp
  | formula template =>
    refine logic.bind (logic.formula (hsound _ (by simp [Operand.submissions])) ctx) fun c _ => ?_
    exact logic.pure fun n => by simp
  | _ => exact logic.pure fun n => by simp

/-- An operator compares bounded values. -/
theorem operator (op : Operator) {c d : Cell} (hc : c.Bounded) (hd : d.Bounded) :
    logic.Holds (fun _ => True) (op.evaluate c d : Evaluation σ ε Bool) := by
  obtain ⟨b, hb⟩ := op.holds_of_bounded hc hd
  rw [Operator.evaluate, hb]
  exact logic.pure trivial

/-- The logic holds of a condition when it holds of its submissions. -/
theorem condition {c : Condition} (hoperator : c.HasOperator)
    (hsound : ∀ s ∈ c.submissions, s.Sound sandbox logic) (ctx : Context) :
    logic.Holds (fun _ => True) (c.evaluate sandbox ctx) := by
  cases c with
  | formula template =>
    refine logic.bind (logic.formula (hsound _ (by simp [Condition.submissions])) ctx)
      fun c _ => ?_
    exact logic.pure trivial
  | comparison left symbol right =>
    obtain ⟨op, hop⟩ := hoperator
    simp only [Condition.submissions, List.mem_append] at hsound
    simp only [Condition.evaluate, hop]
    refine logic.bind (logic.operand (fun s hs => hsound s (.inl hs)) ctx) fun x hx => ?_
    refine logic.bind (logic.operand (fun s hs => hsound s (.inr hs)) ctx) fun y hy => ?_
    exact logic.operator op hx hy

/-- The logic holds of trying conditions when it holds of all their submissions. -/
theorem conditions {conditions : List Condition} (hoperator : ∀ c ∈ conditions, c.HasOperator)
    (hsound : ∀ s ∈ conditions.flatMap Condition.submissions, s.Sound sandbox logic)
    (ctx : Context) : logic.Holds (fun _ => True) (anyHolds sandbox ctx conditions) := by
  induction conditions with
  | nil => exact logic.pure trivial
  | cons c rest ih =>
    simp only [List.flatMap_cons, List.mem_append] at hsound
    have hc := logic.condition (hoperator c List.mem_cons_self) (fun s hs => hsound s (.inl hs)) ctx
    refine logic.bind hc fun holds _ => ?_
    cases holds with
    | true => exact logic.pure trivial
    | false =>
      exact ih (fun c hc => hoperator c (List.mem_cons_of_mem _ hc))
        (fun s hs => hsound s (.inr hs))

/-- The logic holds of a filter when it holds of its submissions. -/
theorem filter {rule : FilterRule} (hoperators : rule.HasOperators)
    (hsound : ∀ s ∈ rule.submissions, s.Sound sandbox logic) (ctx : Context) :
    logic.Holds (fun _ => True) (rule.passes sandbox ctx) := by
  rcases rule with ⟨name, raw, active, test⟩
  cases active with
  | false => exact logic.pure trivial
  | true =>
    cases test with
    | formula template =>
      refine logic.bind (logic.formula (hsound _ (by simp [FilterRule.submissions])) ctx)
        fun c _ => ?_
      exact logic.pure trivial
    | anyOf conditions => exact logic.conditions (hoperators rfl conditions rfl) hsound ctx

/-- The logic holds of filters one after the other when it holds of all their submissions. -/
theorem filters {filters : List FilterRule} (hoperators : ∀ rule ∈ filters, rule.HasOperators)
    (hsound : ∀ s ∈ filters.flatMap FilterRule.submissions, s.Sound sandbox logic)
    (ctx : Context) : logic.Holds (fun _ => True) (passesAll sandbox ctx filters) := by
  induction filters with
  | nil => exact logic.pure trivial
  | cons rule rest ih =>
    simp only [List.flatMap_cons, List.mem_append] at hsound
    have hrule := logic.filter (hoperators rule List.mem_cons_self)
      (fun s hs => hsound s (.inl hs)) ctx
    refine logic.bind hrule fun passed _ => ?_
    cases passed with
    | false => exact logic.pure trivial
    | true =>
      exact ih (fun r hr => hoperators r (List.mem_cons_of_mem _ hr))
        (fun s hs => hsound s (.inr hs))

/-- The logic holds of an output column when it holds of its submission. -/
theorem output {output : Output} (hsound : ∀ s ∈ output.submissions, s.Sound sandbox logic)
    (ctx : Context) : logic.Holds (fun _ => True) (output.resolve sandbox ctx) := by
  cases output with
  | direct column => exact logic.pure trivial
  | constant value => exact logic.pure trivial
  | formula template => exact logic.formulaColumn (hsound _ (by simp [Output.submissions])) ctx
  | expression tokens raw hasReference =>
    rw [Output.resolve_expression]
    split
    · next hhead =>
      simp only [Output.submissions, if_pos hhead, List.mem_singleton, forall_eq] at hsound
      cases hasReference with
      | true => exact logic.formulaColumn hsound ctx
      | false => exact logic.bind (hsound ctx) fun c _ => logic.pure trivial
    · exact logic.pure trivial

/-- The logic holds of output columns one after the other when it holds of all their
submissions. -/
theorem outputs {outputs : List OutputRule}
    (hsound : ∀ s ∈ outputs.flatMap (fun rule => rule.output.submissions), s.Sound sandbox logic)
    (ctx : Context) : logic.Holds (fun _ => True) (evaluateOutputs sandbox ctx outputs) := by
  induction outputs generalizing ctx with
  | nil => exact logic.pure trivial
  | cons rule rest ih =>
    simp only [List.flatMap_cons, List.mem_append] at hsound
    refine logic.bind (logic.output (fun s hs => hsound s (.inl hs)) ctx) fun resolved _ => ?_
    refine logic.bind (ih (fun s hs => hsound s (.inr hs)) _) fun result _ => ?_
    exact logic.pure trivial

variable {rules : RuleSet}

/-- The logic holds of a row when it holds of all submissions. -/
theorem row (hoperators : ∀ rule ∈ rules.filters, rule.HasOperators)
    (hsound : ∀ s ∈ rules.submissions, s.Sound sandbox logic) (ctx : Context) :
    logic.Holds (fun _ => True) (evaluateRow sandbox rules ctx) := by
  simp only [RuleSet.submissions, List.mem_append] at hsound
  refine logic.bind (logic.outputs (fun s hs => hsound s (.inl hs)) ctx) fun result _ => ?_
  refine logic.bind (logic.filters hoperators (fun s hs => hsound s (.inr hs)) _) fun passed _ => ?_
  exact logic.pure trivial

/-- The logic holds of rows one after the other when it holds of all submissions. -/
theorem rows (hoperators : ∀ rule ∈ rules.filters, rule.HasOperators)
    (hsound : ∀ s ∈ rules.submissions, s.Sound sandbox logic) (source : Source) (kept : Nat)
    (rows : List (List Text)) :
    logic.Holds (fun _ => True) (processRows sandbox source rules kept rows) := by
  induction rows generalizing kept with
  | nil => exact logic.pure trivial
  | cons row rest ih =>
    rw [processRows_cons]
    refine logic.bind (logic.row hoperators hsound _) fun result _ => ?_
    cases result with
    | none => exact ih kept
    | some cells => exact logic.bind (ih (kept + 1)) fun rows _ => logic.pure trivial

/-- The logic holds of a run when it holds of all submissions. -/
theorem run (hoperators : ∀ rule ∈ rules.filters, rule.HasOperators)
    (hsound : ∀ s ∈ rules.submissions, s.Sound sandbox logic) (source : Source) :
    logic.Holds (fun _ => True) (rules.run sandbox source) :=
  logic.bind (logic.rows hoperators hsound source 0 source.rows) fun _ _ => logic.pure trivial

end EvaluationLogic

end Logic

section Run

variable {σ ε : Type} {sandbox : Sandbox σ ε} {invariant : σ → Prop}
  {failure : EvaluationError ε → σ → Prop}

/-- Keeping an invariant of the state, and failing in given ways only. -/
def EvaluationLogic.keeping (invariant : σ → Prop) (failure : EvaluationError ε → σ → Prop) :
    EvaluationLogic σ ε where
  Holds post x := Satisfies invariant post failure x
  pure h := .pure h
  bind hx hf := hx.bind hf

/-- A sandbox that notes texts answers them as it does without noting them. -/
theorem outcome_recorded (t : Text) (s : σ) (before : List Text) :
    outcome (sandbox.recorded t) (s, before) =
      ((outcome (sandbox t) s).1, ((outcome (sandbox t) s).2, t :: before)) := rfl

/-- In every context the sandbox keeps the invariant when a submission is made, and fails in
the given way only. -/
def Submission.Safe (sandbox : Sandbox σ ε) (invariant : σ → Prop)
    (failure : EvaluationError ε → σ → Prop) (submission : Submission) : Prop :=
  ∀ ctx, Satisfies invariant (fun _ => True) failure (submit sandbox (submission.text ctx))

/-- A whole run keeps what each of its submissions keeps, and fails only as they do. -/
theorem RuleSet.satisfies_run {rules : RuleSet}
    (hoperators : ∀ rule ∈ rules.filters, rule.HasOperators)
    (hsafe : ∀ s ∈ rules.submissions, s.Safe sandbox invariant failure) (source : Source) :
    Satisfies invariant (fun _ => True) failure (rules.run sandbox source) :=
  (EvaluationLogic.keeping invariant failure).run hoperators hsafe source

end Run

end Rowscript
