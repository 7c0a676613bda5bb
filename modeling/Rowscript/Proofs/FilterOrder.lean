import Mathlib.Data.List.Perm.Basic
import Rowscript.Proofs.MappingRows
import Rowscript.Proofs.RowIndependence

/-!
# The order of filters

A row is kept if it passes all filters, and it passes a filter of alternatives if one of them
holds. Filters change nothing that another one sees, and they are decided after all output
columns. So with a sandbox that answers every text by a function it makes no difference where the
filters of a mapping stand, in which order they stand, and in which order an evaluated filter
lists its conditions: only what is submitted on the way may be another.
-/

namespace Rowscript

/-- Two filters test the same: one formula, or the same conditions in any order. -/
inductive FilterTest.Reordered : FilterTest → FilterTest → Prop where
  | formula (template : Text) : Reordered (.formula template) (.formula template)
  | anyOf {conditions others : List Condition} (h : conditions.Perm others) :
      Reordered (.anyOf conditions) (.anyOf others)

/-- Two filters are evaluated or not, and test the same. -/
structure FilterRule.Reordered (rule other : FilterRule) : Prop where
  active_eq : rule.active = other.active
  test : rule.test.Reordered other.test

/-- Two rule sets have the same output columns in the same order, and the same filters in any
order, each of them with its conditions in any order. -/
structure RuleSet.Reordered (rules others : RuleSet) : Prop where
  outputs_eq : rules.outputs = others.outputs
  filters : ∃ moved, rules.filters.Perm moved ∧
    List.Forall₂ FilterRule.Reordered moved others.filters

/-- Two mappings have the same output columns in the same order and the same filters, which may
stand anywhere among them. -/
structure FiltersMoved (mapping other : List (Text × Text)) : Prop where
  columns_eq : mapping.filter isColumnRow = other.filter isColumnRow
  filters : (mapping.filter isFilterRow).Perm (other.filter isFilterRow)

/-- A test lists its conditions in the order that it has. -/
theorem FilterTest.Reordered.refl (test : FilterTest) : test.Reordered test := by
  cases test with
  | formula template => exact .formula template
  | anyOf conditions => exact .anyOf (.refl conditions)

/-- A mapping whose filters are moved is loaded as well, with its filters in another order. -/
theorem FiltersMoved.exists_load {headers : List Text} {mapping other : List (Text × Text)}
    {rules : RuleSet} (h : FiltersMoved mapping other)
    (hload : RuleSet.load headers mapping = .ok rules) :
    ∃ others, RuleSet.load headers other = .ok others ∧ rules.Reordered others := by
  obtain ⟨hcolumns, hfilters⟩ := RuleSet.load_eq_ok_iff_rows.mp hload
  rw [h.columns_eq] at hcolumns
  obtain ⟨filters, hread, hperm⟩ := List.perm_comp_forall₂ h.filters.symm hfilters
  refine ⟨⟨rules.outputs, filters⟩, RuleSet.load_eq_ok_iff_rows.mpr ⟨hcolumns, hread⟩, rfl, ?_⟩
  exact ⟨filters, hperm.symm, List.forall₂_same.mpr fun rule _ => ⟨rfl, .refl rule.test⟩⟩

section Settled

variable {σ ε α β : Type} {x y z : Evaluation σ ε α} {a : α}

/-- From every state an evaluation comes to the value. -/
def Settles (x : Evaluation σ ε α) (a : α) : Prop :=
  Satisfies (fun _ => True) (· = a) (fun _ _ => False) x

namespace Settles

/-- A value by itself is what it comes to. -/
theorem pure (a : α) : Settles (pure a : Evaluation σ ε α) a := Satisfies.pure rfl

/-- Steps come to what the second one comes to after the first. -/
theorem bind {f : α → Evaluation σ ε β} {b : β} (hx : Settles x a) (hf : Settles (f a) b) :
    Settles (x >>= f) b :=
  Satisfies.bind hx fun _ ha => ha ▸ hf

/-- In every state there is an outcome with the value. -/
theorem exists_outcome (h : Settles x a) (s : σ) : ∃ s', outcome x s = (.ok a, s') := by
  obtain ⟨_, s', hout, rfl⟩ := h.exists_ok trivial (s := s)
  exact ⟨s', hout⟩

end Settles

/-- Coming to some value of the given kind, the same one from every state. -/
def EvaluationLogic.settling : EvaluationLogic σ ε where
  Holds post x := ∃ a, post a ∧ Settles x a
  pure h := ⟨_, h, .pure _⟩
  bind := by
    rintro _ _ post next x f ⟨a, ha, hx⟩ hf
    obtain ⟨b, hb, hf⟩ := hf a ha
    exact ⟨b, hb, hx.bind hf⟩

/-- Two evaluations come to the same value, whatever states they begin in. -/
def Agree (x y : Evaluation σ ε α) : Prop := ∃ a, Settles x a ∧ Settles y a

namespace Agree

/-- An evaluation that comes to a value agrees with itself. -/
theorem of_settles (h : Settles x a) : Agree x x := ⟨a, h, h⟩

/-- The same value is the same. -/
theorem pure (a : α) : Agree (pure a : Evaluation σ ε α) (pure a) := ⟨a, .pure a, .pure a⟩

/-- Steps that agree one by one agree one after the other. -/
theorem bind {f g : α → Evaluation σ ε β} (hx : Agree x y) (hf : ∀ a, Agree (f a) (g a)) :
    Agree (x >>= f) (y >>= g) := by
  obtain ⟨a, hx, hy⟩ := hx
  obtain ⟨b, hf, hg⟩ := hf a
  exact ⟨b, hx.bind hf, hy.bind hg⟩

/-- What agrees with the same agrees with each other. -/
theorem trans (h : Agree x y) (h' : Agree y z) : Agree x z := by
  obtain ⟨a, hx, hy⟩ := h
  obtain ⟨b, hy', hz⟩ := h'
  by_cases hstate : Nonempty σ
  · obtain ⟨s⟩ := hstate
    obtain ⟨t, ht⟩ := hy.exists_outcome s
    obtain ⟨t', ht'⟩ := hy'.exists_outcome s
    obtain rfl : a = b := Except.ok.inj (Prod.mk.inj (ht.symm.trans ht')).1
    exact ⟨a, hx, hz⟩
  · -- Without a state there is nothing to come from.
    exact ⟨a, hx, fun s => absurd ⟨s⟩ hstate⟩

end Agree

end Settled

section Filters

variable {σ ε : Type} {sandbox : Sandbox σ ε} {answer : Text → Cell} {ctx : Context}

/-- Alternatives hold if one of them does, when each of them comes to a value. -/
theorem settles_anyHolds {conditions : List Condition} {holds : Condition → Bool}
    (h : ∀ c ∈ conditions, Settles (c.evaluate sandbox ctx) (holds c)) :
    Settles (anyHolds sandbox ctx conditions) (conditions.any holds) := by
  induction conditions with
  | nil => exact .pure false
  | cons c rest ih =>
    obtain ⟨hc, hrest⟩ := List.forall_mem_cons.mp h
    refine hc.bind ?_
    rw [List.any_cons]
    cases holds c with
    | true => exact .pure true
    | false => simpa using ih hrest

/-- A row passes filters if it passes each of them, when each of them comes to a value. -/
theorem settles_passesAll {filters : List FilterRule} {passes : FilterRule → Bool}
    (h : ∀ rule ∈ filters, Settles (rule.passes sandbox ctx) (passes rule)) :
    Settles (passesAll sandbox ctx filters) (filters.all passes) := by
  induction filters with
  | nil => exact .pure true
  | cons rule rest ih =>
    obtain ⟨hrule, hrest⟩ := List.forall_mem_cons.mp h
    refine hrule.bind ?_
    rw [List.all_cons]
    cases passes rule with
    | false => exact .pure false
    | true => simpa using ih hrest

/-- A submission to a sandbox that answers by a function comes to the answer. -/
theorem Sandbox.Computes.settles (h : sandbox.Computes answer) (t : Text) :
    Settles (submit sandbox t) (answer t) := by
  intro s _
  obtain ⟨s', hs⟩ := h t s
  rw [submit, outcome_adapt, hs]
  exact ⟨trivial, rfl⟩

/-- Every submission to a sandbox that answers by a function comes to a value. -/
theorem Sandbox.Computes.settling (h : sandbox.Computes answer) (submission : Submission) :
    submission.Sound sandbox .settling :=
  fun ctx => ⟨_, trivial, h.settles (submission.text ctx)⟩

/-- The order of alternatives makes no difference. -/
theorem agree_anyHolds (h : sandbox.Computes answer) {conditions others : List Condition}
    (hperm : conditions.Perm others) (hoperators : ∀ c ∈ conditions, c.HasOperator) :
    Agree (anyHolds sandbox ctx conditions) (anyHolds sandbox ctx others) := by
  have hvalue : ∀ c ∈ conditions, ∃ holds, Settles (c.evaluate sandbox ctx) holds := by
    intro c hc
    obtain ⟨holds, -, hholds⟩ := EvaluationLogic.settling.condition (hoperators c hc)
      (fun s _ => h.settling s) ctx
    exact ⟨holds, hholds⟩
  choose! holds hholds using hvalue
  refine ⟨conditions.any holds, settles_anyHolds hholds, ?_⟩
  rw [hperm.any_eq]
  exact settles_anyHolds fun c hc => hholds c (hperm.mem_iff.mpr hc)

/-- Filters that test the same agree. -/
theorem FilterRule.Reordered.agree (h : sandbox.Computes answer) {rule other : FilterRule}
    (hsame : rule.Reordered other) (hoperators : rule.HasOperators) :
    Agree (rule.passes sandbox ctx) (other.passes sandbox ctx) := by
  rcases rule with ⟨name, raw, active, test⟩
  rcases other with ⟨_, _, _, otherTest⟩
  obtain ⟨rfl, htest⟩ := hsame
  cases active with
  | false => exact .pure true
  | true =>
    cases htest with
    | formula template =>
      obtain ⟨value, -, hvalue⟩ := EvaluationLogic.settling.formula (h.settling (.template template))
        ctx
      exact (Agree.of_settles hvalue).bind fun c => .pure c.isTrue
    | anyOf hperm => exact agree_anyHolds h hperm (hoperators rfl _ rfl)

/-- The order of filters makes no difference. -/
theorem agree_passesAll_of_perm (h : sandbox.Computes answer) {filters others : List FilterRule}
    (hperm : filters.Perm others) (hoperators : ∀ rule ∈ filters, rule.HasOperators) :
    Agree (passesAll sandbox ctx filters) (passesAll sandbox ctx others) := by
  have hvalue : ∀ rule ∈ filters, ∃ passes, Settles (rule.passes sandbox ctx) passes := by
    intro rule hrule
    obtain ⟨passes, -, hpasses⟩ := EvaluationLogic.settling.filter (hoperators rule hrule)
      (fun s _ => h.settling s) ctx
    exact ⟨passes, hpasses⟩
  choose! passes hpasses using hvalue
  refine ⟨filters.all passes, settles_passesAll hpasses, ?_⟩
  rw [hperm.all_eq]
  exact settles_passesAll fun rule hrule => hpasses rule (hperm.mem_iff.mpr hrule)

/-- Filters that test the same one by one agree. -/
theorem agree_passesAll_of_forall₂ (h : sandbox.Computes answer)
    {filters others : List FilterRule} (hsame : List.Forall₂ FilterRule.Reordered filters others)
    (hoperators : ∀ rule ∈ filters, rule.HasOperators) :
    Agree (passesAll sandbox ctx filters) (passesAll sandbox ctx others) := by
  induction hsame with
  | nil => exact .pure true
  | cons hrule _ ih =>
    obtain ⟨hoperator, hrest⟩ := List.forall_mem_cons.mp hoperators
    refine (hrule.agree h hoperator).bind fun passed => ?_
    cases passed with
    | false => exact .pure false
    | true => exact ih hrest

variable {rules others : RuleSet}

/-- Rule sets with the same filters in another order pass the same rows. -/
theorem RuleSet.Reordered.agree_passesAll (h : sandbox.Computes answer)
    (hsame : rules.Reordered others) (hoperators : ∀ rule ∈ rules.filters, rule.HasOperators) :
    Agree (passesAll sandbox ctx rules.filters) (passesAll sandbox ctx others.filters) := by
  obtain ⟨moved, hperm, hmoved⟩ := hsame.filters
  have hmovedOperators : ∀ rule ∈ moved, rule.HasOperators :=
    fun rule hrule => hoperators rule (hperm.mem_iff.mpr hrule)
  exact (agree_passesAll_of_perm h hperm hoperators).trans
    (agree_passesAll_of_forall₂ h hmoved hmovedOperators)

/-- A row gets the same cells, or none. -/
theorem RuleSet.Reordered.agree_evaluateRow (h : sandbox.Computes answer)
    (hsame : rules.Reordered others) (hoperators : ∀ rule ∈ rules.filters, rule.HasOperators)
    (ctx : Context) : Agree (evaluateRow sandbox rules ctx) (evaluateRow sandbox others ctx) := by
  rw [evaluateRow, evaluateRow, ← hsame.outputs_eq]
  obtain ⟨result, -, houtputs⟩ : EvaluationLogic.settling.Holds (fun _ => True)
      (evaluateOutputs sandbox ctx rules.outputs) :=
    EvaluationLogic.settling.outputs (fun s _ => h.settling s) ctx
  refine (Agree.of_settles houtputs).bind fun result => ?_
  exact (hsame.agree_passesAll h hoperators).bind fun passed => .pure _

/-- The same rows are kept, with the same cells. -/
theorem RuleSet.Reordered.agree_processRows (h : sandbox.Computes answer)
    (hsame : rules.Reordered others) (hoperators : ∀ rule ∈ rules.filters, rule.HasOperators)
    (source : Source) (kept : Nat) (rows : List (List Text)) :
    Agree (processRows sandbox source rules kept rows)
      (processRows sandbox source others kept rows) := by
  induction rows generalizing kept with
  | nil => exact .pure []
  | cons row rest ih =>
    -- Addresses depend on the output columns and on how many rows have been kept.
    have hcontext : rowContext source others row (firstDataRow + kept) =
        rowContext source rules row (firstDataRow + kept) := by
      rw [rowContext, rowContext, addresses, addresses, outputHeaders, outputHeaders,
        hsame.outputs_eq]
    rw [processRows_cons, processRows_cons, hcontext]
    refine (hsame.agree_evaluateRow h hoperators _).bind fun cells => ?_
    cases cells with
    | none => exact ih kept
    | some cells => exact (ih (kept + 1)).bind fun rows => .pure (cells :: rows)

/-- A run gives the same headers, rows and counts. -/
theorem RuleSet.Reordered.agree_run (h : sandbox.Computes answer)
    (hsame : rules.Reordered others) (hoperators : ∀ rule ∈ rules.filters, rule.HasOperators)
    (source : Source) : Agree (rules.run sandbox source) (others.run sandbox source) := by
  rw [run, run, outputHeaders, outputHeaders, ← hsame.outputs_eq]
  exact (hsame.agree_processRows h hoperators source 0 source.rows).bind fun rows => .pure _

/-- The place and the order of filters do not matter. With a sandbox that answers every text by a
function, two mappings that are loaded into the same output columns in the same order and into the
same filters in any order, with their conditions in any order, transform every table into the same
headers, rows and counts. A mapping that differs from one that is loaded only in where the rows of
its filters stand is loaded as well, and into the same filters in another order. -/
theorem transform_of_reordered (h : sandbox.Computes answer) (source : Source)
    (mapping other : List (Text × Text)) :
    (∀ rules others, RuleSet.load source.headers mapping = .ok rules →
      RuleSet.load source.headers other = .ok others → rules.Reordered others →
      ∀ s t, ∃ result s' t', outcome (transform sandbox source mapping) s = (.ok result, s') ∧
        outcome (transform sandbox source other) t = (.ok result, t')) ∧
      (FiltersMoved mapping other → ∀ rules, RuleSet.load source.headers mapping = .ok rules →
        ∃ others, RuleSet.load source.headers other = .ok others ∧ rules.Reordered others) := by
  refine ⟨fun rules others hload hother hsame s t => ?_, fun hmoved rules => hmoved.exists_load⟩
  obtain ⟨result, hrun, hothers⟩ := hsame.agree_run h (RuleSet.hasOperators_of_load hload) source
  obtain ⟨s', hs⟩ := hrun.exists_outcome s
  obtain ⟨t', ht⟩ := hothers.exists_outcome t
  rw [transform_of_load hload, transform_of_load hother]
  exact ⟨result, s', t', outcome_adapt_eq_ok_iff.mpr hs, outcome_adapt_eq_ok_iff.mpr ht⟩

/-- The second filter is put in front of the columns, and its conditions are swapped. -/
theorem transform_of_swapped_filters :
    let mapping := [("A".toList, "src[N]".toList), ("B".toList, "formula:=self[A]*2".toList),
      ("_filter:x".toList, "eval:src[N] != \"-\"".toList),
      ("_filter:y".toList, "eval:self[B] == \"=5*2\" || =ODD(src[N])".toList)]
    let moved := [("_filter:y".toList, "eval:self[B] == \"=5*2\" || =ODD(src[N])".toList),
      ("A".toList, "src[N]".toList), ("_filter:x".toList, "eval:src[N] != \"-\"".toList),
      ("B".toList, "formula:=self[A]*2".toList)]
    let swapped := [("_filter:y".toList, "eval:=ODD(src[N]) || self[B] == \"=5*2\"".toList),
      ("A".toList, "src[N]".toList), ("_filter:x".toList, "eval:src[N] != \"-\"".toList),
      ("B".toList, "formula:=self[A]*2".toList)]
    let sandbox : Sandbox Unit Unit :=
      .answering fun t => if t = "=ODD(7)".toList then .bool true else .text t
    let source : Source :=
      ⟨["N".toList], [["-".toList], ["5".toList], ["7".toList], ["9".toList]]⟩
    FiltersMoved mapping moved ∧
      (∃ rules others, RuleSet.load source.headers mapping = .ok rules ∧
        RuleSet.load source.headers moved = .ok others ∧ rules.Reordered others) ∧
      (∃ rules others, RuleSet.load source.headers mapping = .ok rules ∧
        RuleSet.load source.headers swapped = .ok others ∧ rules.Reordered others) ∧
      (outcome (transform sandbox source mapping) ()).1 = .ok ⟨["A".toList, "B".toList],
        [["5".toList, "=A2*2".toList], ["7".toList, "=A3*2".toList]], 4, 2⟩ ∧
      ∃ result, outcome (transform sandbox source mapping) () = (.ok result, ()) ∧
        outcome (transform sandbox source swapped) () = (.ok result, ()) := by
  intro mapping moved swapped sandbox source
  have hcomputes : sandbox.Computes
      fun t => if t = "=ODD(7)".toList then .bool true else .text t :=
    fun formula s => ⟨s, rfl⟩
  let columns : List OutputRule :=
    [⟨"A".toList, .expression [⟨.sourceRef, "N".toList, "src[N]".toList⟩] "src[N]".toList true⟩,
      ⟨"B".toList, .formula "=self[A]*2".toList⟩]
  let known : Condition :=
    .comparison (.reference ⟨.output, "B".toList⟩) "==".toList (.string "=5*2".toList)
  let odd : Condition := .formula "=ODD(src[N])".toList
  let first : FilterRule := ⟨"x".toList, "eval:src[N] != \"-\"".toList, true,
    .anyOf [.comparison (.reference ⟨.source, "N".toList⟩) "!=".toList (.string "-".toList)]⟩
  let rules : RuleSet := ⟨columns, [first, ⟨"y".toList,
    "eval:self[B] == \"=5*2\" || =ODD(src[N])".toList, true, .anyOf [known, odd]⟩]⟩
  let others : RuleSet := ⟨columns, [⟨"y".toList,
    "eval:=ODD(src[N]) || self[B] == \"=5*2\"".toList, true, .anyOf [odd, known]⟩, first]⟩
  have hload : RuleSet.load source.headers mapping = .ok rules := by decide +kernel
  have hothers : RuleSet.load source.headers swapped = .ok others := by decide +kernel
  have hmoved : FiltersMoved mapping moved := ⟨by decide +kernel, by decide +kernel⟩
  have hsame : rules.Reordered others :=
    ⟨rfl, _, .swap _ _ _, .cons ⟨rfl, .anyOf (.swap _ _ _)⟩ (.cons ⟨rfl, .refl _⟩ .nil)⟩
  obtain ⟨result, _, _, hresult, hswapped⟩ :=
    (transform_of_reordered hcomputes source mapping swapped).1 rules others hload hothers hsame
      () ()
  obtain ⟨others', hload', hsame'⟩ :=
    (transform_of_reordered hcomputes source mapping moved).2 hmoved rules hload
  exact ⟨hmoved, ⟨rules, others', hload, hload', hsame'⟩, ⟨rules, others, hload, hothers, hsame⟩,
    by decide +kernel, result, hresult, hswapped⟩

end Filters

end Rowscript
