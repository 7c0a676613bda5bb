import Rowscript.Proofs.NumberTokens
import Rowscript.Proofs.Submissions

/-!
# How a transformation fails

A transformation fails in two ways. Either a rule of the mapping cannot be read: then the
first such rule is reported with its header, and nothing has been submitted to the sandbox.
Or the sandbox fails on a formula that is submitted to it. No value that the sandbox or the
source table holds makes a comparison fail, because the sides of a comparison are texts,
truth values and numbers of the rule itself.
-/

namespace Rowscript

/-- Reading a list fails with its first item, or after that with the others. -/
theorem mapM_cons_eq_error_iff {α β ε : Type} {f : α → Except ε β} {x : α} {xs : List α} {e : ε} :
    (x :: xs).mapM f = .error e ↔
      f x = .error e ∨ (∃ b, f x = .ok b) ∧ xs.mapM f = .error e := by
  rw [List.mapM_cons]
  cases f x with
  | error d => simp [bind, Except.bind]
  | ok b => cases xs.mapM f <;> simp [bind, Except.bind, pure, Except.pure]

/-- A list cannot be read when one of its items cannot be read but all before it can. -/
theorem mapM_eq_error_iff {α β ε : Type} {f : α → Except ε β} {xs : List α} {e : ε} :
    xs.mapM f = .error e ↔
      ∃ before x after, xs = before ++ x :: after ∧ (∀ y ∈ before, ∃ b, f y = .ok b) ∧
        f x = .error e := by
  induction xs with
  | nil => simp [List.mapM_nil, pure, Except.pure]
  | cons x xs ih =>
    rw [mapM_cons_eq_error_iff, ih]
    constructor
    · rintro (hx | ⟨hx, before, y, after, rfl, hbefore, hy⟩)
      · exact ⟨[], x, xs, rfl, by simp, hx⟩
      · exact ⟨x :: before, y, after, rfl, List.forall_mem_cons.mpr ⟨hx, hbefore⟩, hy⟩
    · rintro ⟨before, y, after, hsplit, hbefore, hy⟩
      cases before with
      | nil =>
        obtain ⟨rfl, rfl⟩ := List.cons.inj hsplit
        exact .inl hy
      | cons z before =>
        obtain ⟨rfl, rfl⟩ := List.cons.inj hsplit
        obtain ⟨hx, hbefore⟩ := List.forall_mem_cons.mp hbefore
        exact .inr ⟨hx, before, y, after, rfl, hbefore, hy⟩

/-- The first rule of a mapping that cannot be read. The error has its header without the
blanks around it. -/
def FirstError (headers : List Text) (mapping : List (Text × Text)) (e : RuleError) : Prop :=
  ∃ before header instruction after, mapping = before ++ (header, instruction) :: after ∧
    (∀ rule ∈ before, isSkipped rule.1 = false → ∃ i, readRule headers rule.1 rule.2 = .ok i) ∧
    isSkipped header = false ∧ readRule headers header instruction = .error e ∧
    e.header = Text.trim header

/-- The error of a rule has the header of the rule. -/
theorem header_of_readRule_eq_error {headers : List Text} {header instruction : Text}
    {e : RuleError} (h : readRule headers header instruction = .error e) :
    e.header = Text.trim header := by
  unfold readRule at h
  cases hread : readTrimmed headers (Text.trim header) (Text.trim instruction) with
  | error cause =>
    rw [hread] at h
    exact Except.error.inj h ▸ rfl
  | ok i =>
    rw [hread] at h
    simp [Except.mapError] at h

/-- A mapping cannot be loaded exactly when it has a first rule that cannot be read. -/
theorem RuleSet.load_eq_error_iff {headers : List Text} {mapping : List (Text × Text)}
    {e : RuleError} : load headers mapping = .error e ↔ FirstError headers mapping e := by
  have hload : load headers mapping = .error e ↔
      readRules headers (mapping.filter fun rule => !isSkipped rule.1) = .error e := by
    rw [load_eq]
    cases readRules headers (mapping.filter fun rule => !isSkipped rule.1) <;> simp [Except.map]
  rw [hload, readRules, mapM_eq_error_iff]
  constructor
  · rintro ⟨front, ⟨header, instruction⟩, back, hsplit, hfront, herror⟩
    -- Between the last rule that is read and the offending one there may be notes.
    obtain ⟨before, rest, rfl, rfl, hrest⟩ := List.filter_eq_append_iff.mp hsplit
    obtain ⟨skipped, after, rfl, hskipped, hkept, rfl⟩ := List.filter_eq_cons_iff.mp hrest
    refine ⟨before ++ skipped, header, instruction, after, by simp, ?_, by simpa using hkept,
      herror, header_of_readRule_eq_error herror⟩
    intro rule hrule hkeep
    rcases List.mem_append.mp hrule with hrule | hrule
    · exact hfront rule (List.mem_filter.mpr ⟨hrule, by simp [hkeep]⟩)
    · exact absurd hkeep (by simpa using hskipped rule hrule)
  · rintro ⟨before, header, instruction, after, rfl, hbefore, hkept, herror, -⟩
    refine ⟨before.filter fun rule => !isSkipped rule.1, (header, instruction),
      after.filter fun rule => !isSkipped rule.1, by simp [hkept], ?_, herror⟩
    intro rule hrule
    obtain ⟨hmem, hkeep⟩ := List.mem_filter.mp hrule
    exact hbefore rule hmem (by simpa using hkeep)

section Run

variable {σ ε : Type}

/-- The sandbox fails on some formula, and this is the state that it leaves. -/
def SandboxFails (sandbox : Sandbox σ ε) (cause : ε) (s : σ) : Prop :=
  ∃ formula before, outcome (sandbox formula) before = (.error cause, s)

/-- Submitting a text fails only with the sandbox. -/
theorem satisfies_submit (sandbox : Sandbox σ ε) (t : Text) :
    Satisfies (fun _ => True) (fun _ => True)
      (fun e s => ∃ cause, e = .sandbox cause ∧ SandboxFails sandbox cause s)
      (submit sandbox t) := by
  intro s _
  rw [submit, outcome_adapt]
  rcases hout : outcome (sandbox t) s with ⟨cause | value, s'⟩
  · exact ⟨trivial, cause, rfl, t, s, hout⟩
  · exact ⟨trivial, trivial⟩

/-- A run by rules that have been loaded fails only with the sandbox. -/
theorem RuleSet.satisfies_run_of_load {headers : List Text} {mapping : List (Text × Text)}
    {rules : RuleSet} (hload : load headers mapping = .ok rules) (sandbox : Sandbox σ ε)
    (source : Source) :
    Satisfies (fun _ => True) (fun _ => True)
      (fun e s => ∃ cause, e = .sandbox cause ∧ SandboxFails sandbox cause s)
      (rules.run sandbox source) :=
  satisfies_run (hasOperators_of_load hload)
    (fun submission _ ctx => satisfies_submit sandbox (submission.text ctx)) source

/-- A transformation by a mapping with a malformed rule reports the rule and submits nothing. -/
theorem outcome_transform_of_load_eq_error {source : Source} {mapping : List (Text × Text)}
    {e : RuleError} (hload : RuleSet.load source.headers mapping = .error e)
    (sandbox : Sandbox σ ε) (s : σ) :
    outcome (transform sandbox source mapping) s = (.error (.rule e), s) := by
  rw [transform, hload]
  rfl

/-- A transformation by a mapping without malformed rules fails only with the sandbox. -/
theorem sandboxFails_of_transform {source : Source} {mapping : List (Text × Text)}
    {rules : RuleSet} (hload : RuleSet.load source.headers mapping = .ok rules)
    {sandbox : Sandbox σ ε} {s s' : σ} {e : TransformError ε}
    (hout : outcome (transform sandbox source mapping) s = (.error e, s')) :
    ∃ cause, e = .evaluation (.sandbox cause) ∧ SandboxFails sandbox cause s' := by
  have htransform : transform sandbox source mapping =
      ExceptT.adapt TransformError.evaluation (rules.run sandbox source) := by
    rw [transform, hload]
  rw [htransform, outcome_adapt] at hout
  have hrun := RuleSet.satisfies_run_of_load hload sandbox source s trivial
  rcases hresult : outcome (rules.run sandbox source) s with ⟨failure | result, t⟩
  · rw [hresult] at hout
    simp only [hresult] at hrun
    obtain ⟨-, cause, rfl, hfails⟩ := hrun
    obtain ⟨he, rfl⟩ := Prod.mk.inj hout
    exact ⟨cause, (Except.error.inj he).symm, hfails⟩
  · rw [hresult] at hout
    simp [Except.mapError] at hout

/-- Only a malformed rule or the sandbox ends a transformation. If the mapping cannot be
loaded, the transformation reports the same rule with its header, and the state of the
sandbox is as before. If it can be loaded, every error is one with which the sandbox
answered a formula, and it leaves the state of that answer. No step of reading a rule or a
value fails in another way: tokens are found in their text one behind the other, the tokens
of numbers are numerals, and digits have values. -/
theorem transform_failures (sandbox : Sandbox σ ε) (source : Source)
    (mapping : List (Text × Text)) (s : σ) :
    (match RuleSet.load source.headers mapping with
      | .error e => FirstError source.headers mapping e ∧
          outcome (transform sandbox source mapping) s = (.error (.rule e), s)
      | .ok _ => ∀ e s', outcome (transform sandbox source mapping) s = (.error e, s') →
          ∃ cause, e = .evaluation (.sandbox cause) ∧ SandboxFails sandbox cause s') ∧
      (∀ t, ∃ blanks, t = (lexemes t).flatMap Lexeme.render ++ blanks) ∧
      (∀ t, ∀ token ∈ tokenize t, token.kind = .number →
        ∃ numeral, Numeral.ofText? (Numeral.normalizeDecimal token.value) = some numeral) ∧
      ∀ t, ∀ c ∈ (Numeral.scanDigits t).1, ∃ digit, Text.digitValue? c = some digit := by
  refine ⟨?_, fun t => ?_, fun t token htoken hkind => ?_, fun t c hc => ?_⟩
  · cases hload : RuleSet.load source.headers mapping with
    | error e =>
      exact ⟨RuleSet.load_eq_error_iff.mp hload, outcome_transform_of_load_eq_error hload sandbox s⟩
    | ok rules => exact fun e s' hout => sandboxFails_of_transform hload hout
  · obtain ⟨blanks, -, hsplit⟩ := exists_lexemes_append t
    exact ⟨blanks, hsplit⟩
  · obtain ⟨l, hl, rfl⟩ := List.mem_map.mp htoken
    exact Numeral.ofText?_of_shape (shape_of_mem_lexemes hl) hkind
  · rw [Numeral.scanDigits, List.span_eq_takeWhile_dropWhile] at hc
    have hdigit : Text.isDigit c = true := List.mem_takeWhile_imp hc
    exact Option.isSome_iff_exists.mp hdigit

end Run

end Rowscript
