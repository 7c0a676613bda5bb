import Mathlib.Tactic.ByContra
import Rowscript.Proofs.Submissions

/-!
# Which submissions are formulas

A sandbox computes formulas, and a formula begins with exactly one equals sign. A literal
never begins with one, so a text that is submitted begins as it is written in its rule. All
that is written after a marker of formulas, and every formula on a side of a comparison, is
checked or cut so that it begins as a formula. Two other ways to the sandbox check less:
an expression may begin with two equals signs, and a condition may hold a formula without
beginning with it.
-/

namespace Rowscript

namespace Numeral

/-- No numeral begins with an equals sign. -/
theorem scan?_equals (rest : Text) : scan? ('=' :: rest) = none := by
  have hdigit : Text.isDigit '=' = false := by decide
  simp [scan?, scanSign, scanMantissa?, scanDigits, List.span_eq_takeWhile_dropWhile, hdigit]

/-- A text that begins with an equals sign is no numeral. -/
theorem isNumeric_equals (rest : Text) : isNumeric ('=' :: rest) = false := by
  obtain ⟨tail, htail⟩ := Text.exists_trim_cons (c := '=') (by decide) rest
  simp [isNumeric, ofText?, htail, scan?_equals]

end Numeral

namespace Cell

/-- A text without its percent sign begins with the same equals sign. -/
theorem dropPercent_equals (rest : Text) : ∃ tail, dropPercent ('=' :: rest) = '=' :: tail := by
  unfold dropPercent
  split
  · next hlast =>
    have hne : rest ≠ [] := by
      rintro rfl
      simp at hlast
    exact ⟨rest.dropLast, List.dropLast_cons_of_ne_nil hne⟩
  · exact ⟨rest, rfl⟩

/-- A number or string does not begin with an equals sign. -/
theorem numberOrString_eq_cons {t : Text} (ht : t ≠ []) :
    ∃ c rest, numberOrString t = c :: rest ∧ c ≠ '=' := by
  simp only [numberOrString]
  split
  · next hnumeric =>
    have hne : Numeral.normalizeDecimal t ≠ [] := by
      unfold Numeral.normalizeDecimal
      split
      · simpa using ht
      · exact ht
    obtain ⟨c, rest, hcons⟩ := List.exists_cons_of_ne_nil hne
    refine ⟨c, rest, hcons, ?_⟩
    rintro rfl
    obtain ⟨tail, htail⟩ := dropPercent_equals rest
    rw [hcons, htail, Numeral.isNumeric_equals] at hnumeric
    simp at hnumeric
  · exact ⟨'"', _, rfl, by decide⟩

/-- No literal is empty or begins with an equals sign. -/
theorem formulaLiteral_eq_cons (value : Cell) :
    ∃ c rest, value.formulaLiteral = c :: rest ∧ c ≠ '=' := by
  by_cases hshown : Text.trim value.display = []
  · exact ⟨'"', ['"'], by simp [formulaLiteral, hshown], by decide⟩
  simp only [formulaLiteral.eq_def, if_neg hshown]
  cases dayMonthYear? (Text.trim value.display) with
  | some date => exact ⟨'D', _, rfl, by decide⟩
  | none =>
    cases value with
    | bool b => cases b <;> exact ⟨_, _, rfl, by decide⟩
    | _ => exact numberOrString_eq_cons hshown

end Cell

/-- A formula begins with an equals sign, and its second character is none. -/
theorem startsFormula_iff {t : Text} :
    startsFormula t = true ↔ t.head? = some '=' ∧ t.tail.head? ≠ some '=' := by
  unfold startsFormula
  split
  · simp
  · next rest hrest =>
    simp only [List.head?_cons, List.tail_cons, true_and, true_iff]
    intro hhead
    obtain ⟨tail, rfl⟩ := List.head?_eq_some_iff.mp hhead
    exact hrest tail rfl
  · next hstart =>
    simp only [Bool.false_eq_true, false_iff, not_and]
    intro hhead
    obtain ⟨tail, rfl⟩ := List.head?_eq_some_iff.mp hhead
    exact absurd rfl (hstart tail)

namespace Context

/-- A formula begins with an equals sign after its references are replaced exactly if it is
written with one. -/
theorem head?_resolve (ctx : Context) (t : Text) :
    (ctx.forFormula.resolve false t).head? = some '=' ↔ t.head? = some '=' := by
  rw [resolve_eq_flatMap]
  cases t with
  | nil => simp
  | cons c t =>
    cases hscan : Reference.scan? (c :: t) with
    | some found =>
      obtain ⟨r, rest⟩ := found
      obtain ⟨d, literal, hliteral, hd⟩ := (ctx.forFormula.value r).formulaLiteral_eq_cons
      have hsubstitute : ctx.forFormula.substitute r = d :: literal := hliteral
      obtain ⟨tail, htail⟩ := r.render_eq_cons
      have hc : c = 's' := by
        have hsplit := Reference.eq_append_of_scan? hscan
        rw [htail] at hsplit
        exact (List.cons.inj hsplit).1
      rw [pieces_of_scan? hscan]
      simp [resolvePiece_reference_eq, hsubstitute, hd, hc]
    | none =>
      rw [pieces_cons_of_scan?_eq_none hscan]
      simp

/-- A text is a formula after its references are replaced exactly if it is written as one. -/
theorem startsFormula_resolve (ctx : Context) (t : Text) :
    startsFormula (ctx.forFormula.resolve false t) = startsFormula t := by
  rw [Bool.eq_iff_iff, startsFormula_iff, startsFormula_iff, head?_resolve]
  refine and_congr_right fun hhead => ?_
  -- The first equals sign stays, and what follows it begins as it is written.
  obtain ⟨rest, rfl⟩ := List.head?_eq_some_iff.mp hhead
  have hscan : Reference.scan? ('=' :: rest) = none := by
    rw [Option.eq_none_iff_forall_not_mem]
    rintro ⟨r, after⟩ hread
    have hsplit := Reference.eq_append_of_scan? hread
    obtain ⟨tail, htail⟩ := r.render_eq_cons
    simp [htail] at hsplit
  have hresolve : ctx.forFormula.resolve false ('=' :: rest) =
      '=' :: ctx.forFormula.resolve false rest := by
    rw [resolve_eq_flatMap, pieces_cons_of_scan?_eq_none hscan, resolve_eq_flatMap]
    rfl
  rw [hresolve]
  exact not_congr (head?_resolve ctx rest)

end Context

/-- What is submitted is a formula in every context exactly if it is written as one. -/
theorem Submission.startsFormula_text (submission : Submission) (ctx : Context) :
    startsFormula (submission.text ctx) = startsFormula submission.written := by
  cases submission with
  | template t => exact ctx.startsFormula_resolve t
  | verbatim t => rfl

/-- What a condition submits though it is no formula: it holds one behind other text. -/
def Condition.strays : Condition → List Submission
  | formula template => if template.head? = some '=' then [] else [.template template]
  | comparison _ _ _ => []

/-- What a filter may submit though it is no formula. -/
def FilterRule.strays (rule : FilterRule) : List Submission :=
  if rule.active then
    match rule.test with
    | .formula _ => []
    | .anyOf conditions => conditions.flatMap Condition.strays
  else []

/-- What an output submits though it is no formula: it begins with two equals signs. -/
def Output.strays : Output → List Submission
  | expression _ raw hasReference =>
    if Text.startsWith "==".toList raw then [if hasReference then .template raw else .verbatim raw]
    else []
  | _ => []

/-- What a rule set may submit though it is no formula. -/
def RuleSet.strays (rules : RuleSet) : List Submission :=
  rules.outputs.flatMap (fun rule => rule.output.strays) ++ rules.filters.flatMap FilterRule.strays

/-- A text that begins with two equals signs is no formula. -/
theorem startsFormula_eq_false_of_startsWith {t : Text}
    (h : Text.startsWith "==".toList t = true) : startsFormula t = false := by
  obtain ⟨rest, hrest⟩ := Option.isSome_iff_exists.mp h
  rw [Text.after?_eq_some_iff.mp hrest]
  rfl

/-- A text that begins with an equals sign but is no formula begins with two of them. -/
theorem startsWith_of_startsFormula_eq_false {t : Text} (hhead : t.head? = some '=')
    (h : startsFormula t = false) : Text.startsWith "==".toList t = true := by
  obtain ⟨rest, rfl⟩ := List.head?_eq_some_iff.mp hhead
  have hsecond : rest.head? = some '=' := by
    by_contra hne
    rw [startsFormula_iff.mpr ⟨hhead, hne⟩] at h
    simp at h
  obtain ⟨tail, rfl⟩ := List.head?_eq_some_iff.mp hsecond
  rfl

namespace RuleSet

/-- A stray submission is no formula. -/
theorem startsFormula_of_mem_strays {rules : RuleSet} {submission : Submission}
    (h : submission ∈ rules.strays) : startsFormula submission.written = false := by
  rcases List.mem_append.mp h with h | h
  · obtain ⟨⟨header, output⟩, -, h⟩ := List.mem_flatMap.mp h
    cases output with
    | expression tokens raw hasReference =>
      simp only [Output.strays] at h
      split at h
      · next hstart =>
        obtain rfl := List.mem_singleton.mp h
        cases hasReference <;> exact startsFormula_eq_false_of_startsWith hstart
      · simp at h
    | _ => simp [Output.strays] at h
  · obtain ⟨⟨name, raw, active, test⟩, -, h⟩ := List.mem_flatMap.mp h
    cases active with
    | false => simp [FilterRule.strays] at h
    | true =>
      cases test with
      | formula template => simp [FilterRule.strays] at h
      | anyOf conditions =>
        obtain ⟨c, -, h⟩ := List.mem_flatMap.mp h
        cases c with
        | comparison left symbol right => simp [Condition.strays] at h
        | formula template =>
          simp only [Condition.strays] at h
          split at h
          · simp at h
          · next hhead =>
            obtain rfl := List.mem_singleton.mp h
            rw [← Bool.not_eq_true, startsFormula_iff]
            exact fun hstart => hhead hstart.1

end RuleSet

/-- A token of another kind than a formula's submits nothing. -/
theorem Operand.submissions_ofToken {token : Token} (hkind : token.kind ≠ .formula) :
    (Operand.ofToken token).submissions = [] := by
  rcases token with ⟨kind, value, raw⟩
  cases kind with
  | formula => exact absurd rfl hkind
  | _ => rfl

/-- An operand submits a formula. -/
theorem Operand.startsFormula_of_mem_submissions {t : Text} {ls : List Lexeme}
    (hls : ls ⊆ lexemes t) {submission : Submission}
    (h : submission ∈ (Operand.ofLexemes ls).submissions) :
    startsFormula submission.written = true := by
  rcases ls with _ | ⟨l, _ | ⟨l', rest⟩⟩
  · simp [Operand.ofLexemes, Operand.ofTokens, submissions] at h
  · have hshape : l.token.Shape := shape_of_mem_lexemes (hls List.mem_cons_self)
    by_cases hkind : l.token.kind = .formula
    · obtain ⟨body, htoken, -, hbody⟩ := hshape.eq_formula hkind
      have hwritten : submission = .template ('=' :: body) := by
        simpa [Operand.ofLexemes, Operand.ofTokens, Operand.ofToken, submissions, htoken,
          Token.plain] using h
      rw [hwritten, Submission.written, startsFormula_iff]
      refine ⟨rfl, fun hhead => ?_⟩
      have hequals := hbody '=' (List.mem_of_head? hhead)
      exact absurd hequals (by decide)
    · have hnone : submission ∈ (Operand.ofToken l.token).submissions := h
      simp [submissions_ofToken hkind] at hnone
  · simp [Operand.ofLexemes, Operand.ofTokens, submissions] at h

/-- A text without operators does not begin with two equals signs. -/
theorem startsWith_eq_false_of_no_operator {t : Text}
    (hnone : ∀ l ∈ lexemes t, l.token.kind ≠ .operator) :
    Text.startsWith "==".toList t = false := by
  rw [← Bool.not_eq_true]
  intro hstart
  obtain ⟨rest, hrest⟩ := Option.isSome_iff_exists.mp hstart
  have ht : t = '=' :: '=' :: rest := Text.after?_eq_some_iff.mp hrest
  have htrim : Text.trimLeft t = '=' :: '=' :: rest := by
    rw [ht]
    exact Text.trimLeft_cons (by decide) _
  have hmem : ⟨t.takeWhile Text.isBlank, Token.plain .operator "==".toList⟩ ∈ lexemes t := by
    rw [lexemes_of_trimLeft_eq_cons htrim, Token.first_equals]
    exact List.mem_cons_self
  exact hnone _ hmem rfl

/-- A condition submits formulas, unless it is a stray one itself. -/
theorem Condition.ReadFrom.mem_strays {t : Text} {c : Condition} (h : ReadFrom t c)
    {submission : Submission} (hsubmission : submission ∈ c.submissions)
    (hstart : startsFormula submission.written = false) : submission ∈ c.strays := by
  cases h with
  | @comparison left right operator hsplit _ _ _ _ =>
    have hleft : left ⊆ lexemes t := fun l hl => by simp [hsplit, hl]
    have hright : right ⊆ lexemes t := fun l hl => by simp [hsplit, hl]
    have hformula : startsFormula submission.written = true := by
      rcases List.mem_append.mp hsubmission with hmem | hmem
      · exact Operand.startsFormula_of_mem_submissions hleft hmem
      · exact Operand.startsFormula_of_mem_submissions hright hmem
    rw [hstart] at hformula
    simp at hformula
  | formula hnone _ _ =>
    obtain rfl := List.mem_singleton.mp hsubmission
    have hhead : t.head? ≠ some '=' := by
      intro hhead
      have htwice := startsWith_of_startsFormula_eq_false hhead hstart
      rw [startsWith_eq_false_of_no_operator hnone] at htwice
      simp at htwice
    simp [strays, hhead]

/-- A filter submits formulas, unless a condition of it is a stray one. -/
theorem FilterRule.ReadFrom.mem_strays {headers : List Text} {name raw : Text}
    {rule : FilterRule} (h : ReadFrom headers name raw rule) {submission : Submission}
    (hsubmission : submission ∈ rule.submissions)
    (hstart : startsFormula submission.written = false) : submission ∈ rule.strays := by
  cases h with
  | note => simp [submissions] at hsubmission
  | formula _ _ hformula _ =>
    obtain rfl := List.mem_singleton.mp hsubmission
    rw [Submission.written, hformula] at hstart
    simp at hstart
  | anyOf _ _ hconditions =>
    obtain ⟨c, hc, hsubmission⟩ := List.mem_flatMap.mp hsubmission
    obtain ⟨piece, -, hread⟩ := exists_of_mem_forall₂ hconditions hc
    exact List.mem_flatMap.mpr ⟨c, hc, hread.mem_strays hsubmission hstart⟩

/-- An output submits a formula, unless it is an expression with two equals signs. -/
theorem Output.ReadFrom.mem_strays {headers : List Text} {raw : Text} {o : Output}
    (h : ReadFrom headers raw o) {submission : Submission}
    (hsubmission : submission ∈ o.submissions)
    (hstart : startsFormula submission.written = false) : submission ∈ o.strays := by
  cases h with
  | constant value => simp [submissions] at hsubmission
  | direct _ _ _ => simp [submissions] at hsubmission
  | formula hformula _ =>
    obtain rfl := List.mem_singleton.mp hsubmission
    rw [Submission.written, hformula] at hstart
    simp at hstart
  | expression _ _ _ =>
    simp only [submissions] at hsubmission
    split at hsubmission
    · next hhead =>
      have hwritten : submission.written = raw := by
        rw [List.mem_singleton.mp hsubmission]
        split <;> rfl
      rw [hwritten] at hstart
      rw [strays, if_pos (startsWith_of_startsFormula_eq_false hhead hstart)]
      exact hsubmission
    · simp at hsubmission

/-- In a mapping that is loaded, the submissions that are no formulas are the stray ones. -/
theorem RuleSet.startsFormula_iff_of_load {headers : List Text} {mapping : List (Text × Text)}
    {rules : RuleSet} (hload : load headers mapping = .ok rules) {submission : Submission}
    (hsubmission : submission ∈ rules.submissions) :
    startsFormula submission.written = true ↔ submission ∉ rules.strays := by
  constructor
  · intro hstart hstray
    rw [startsFormula_of_mem_strays hstray] at hstart
    simp at hstart
  · intro hstray
    by_contra hstart
    rw [Bool.not_eq_true] at hstart
    refine hstray (List.mem_append.mpr ?_)
    rcases List.mem_append.mp hsubmission with hmem | hmem
    · left
      obtain ⟨rule, hrule, hmem⟩ := List.mem_flatMap.mp hmem
      obtain ⟨raw, hread⟩ := exists_readFrom_of_mem_outputs hload hrule
      exact List.mem_flatMap.mpr ⟨rule, hrule, hread.mem_strays hmem hstart⟩
    · right
      obtain ⟨rule, hrule, hmem⟩ := List.mem_flatMap.mp hmem
      obtain ⟨name, raw, hread⟩ := exists_readFrom_of_mem_filters hload hrule
      exact List.mem_flatMap.mpr ⟨rule, hrule, hread.mem_strays hmem hstart⟩

section Run

variable {σ ε : Type}

/-- The texts that a run submits to the sandbox, the latest first. -/
def RuleSet.submitted (sandbox : Sandbox σ ε) (rules : RuleSet) (source : Source) (s : σ) :
    List Text :=
  (outcome (rules.run sandbox.recorded source) (s, [])).2.2

/-- A property of all texts submitted so far is kept when a text with the property is
submitted, whatever the sandbox answers. -/
theorem satisfies_submit_recorded {sandbox : Sandbox σ ε} {p : Text → Prop} {t : Text}
    (ht : p t) :
    Satisfies (fun s : σ × List Text => ∀ f ∈ s.2, p f) (fun _ => True) (fun _ _ => True)
      (submit sandbox.recorded t) := by
  intro s hs
  have hnoted : ∀ f ∈ (outcome (submit sandbox.recorded t) s).2.2, p f := by
    intro f hf
    rcases List.mem_cons.mp (show f ∈ t :: s.2 from hf) with rfl | hf
    · exact ht
    · exact hs f hf
  rcases hout : outcome (submit sandbox.recorded t) s with ⟨_ | _, s'⟩
  all_goals
    rw [hout] at hnoted
    exact ⟨hnoted, trivial⟩

/-- Whatever a run submits is written in its rules. -/
theorem RuleSet.exists_submission_of_submitted {rules : RuleSet}
    (hoperators : ∀ rule ∈ rules.filters, rule.HasOperators) (sandbox : Sandbox σ ε)
    (source : Source) (s : σ) {f : Text} (hf : f ∈ rules.submitted sandbox source s) :
    ∃ submission ∈ rules.submissions, ∃ ctx, f = submission.text ctx := by
  let written (f : Text) : Prop := ∃ submission ∈ rules.submissions, ∃ ctx, f = submission.text ctx
  have hsafe : ∀ submission ∈ rules.submissions, submission.Safe sandbox.recorded
      (fun s : σ × List Text => ∀ f ∈ s.2, written f) (fun _ _ => True) :=
    fun submission hmem ctx => satisfies_submit_recorded ⟨submission, hmem, ctx, rfl⟩
  have hrun := satisfies_run hoperators hsafe source (s, []) (by simp)
  rw [submitted] at hf
  rcases hout : outcome (rules.run sandbox.recorded source) (s, []) with ⟨_ | _, s'⟩
  all_goals
    rw [hout] at hf
    simp only [hout] at hrun
    exact hrun.1 f hf

/-- A run submits formulas except for the stray submissions of its rules: every text that is
submitted is written in the rules, and it begins with exactly one equals sign unless it is
an expression that begins with two of them, or a condition that holds a formula behind other
text. -/
theorem RuleSet.startsFormula_of_submitted {headers : List Text} {mapping : List (Text × Text)}
    {rules : RuleSet} (hload : load headers mapping = .ok rules) (sandbox : Sandbox σ ε)
    (source : Source) (s : σ) :
    ∀ f ∈ rules.submitted sandbox source s, ∃ submission ∈ rules.submissions,
      (∃ ctx, f = submission.text ctx) ∧
        (startsFormula f = true ↔ submission ∉ rules.strays) := by
  intro f hf
  obtain ⟨submission, hmem, ctx, rfl⟩ :=
    exists_submission_of_submitted (hasOperators_of_load hload) sandbox source s hf
  refine ⟨submission, hmem, ⟨ctx, rfl⟩, ?_⟩
  rw [submission.startsFormula_text, startsFormula_iff_of_load hload hmem]

/-- Both stray forms reach a sandbox that answers every formula with its text. -/
theorem RuleSet.submitted_strays :
    ∃ rules, load [] [("Total".toList, "==5".toList),
        ("_filter:x".toList, "eval:foo =BAR()".toList)] = .ok rules ∧
      rules.submitted (fun f => pure (.text f) : Sandbox Unit Unit) ⟨[], [[]]⟩ () =
        ["foo =BAR()".toList, "==5".toList] ∧
      ∀ f ∈ rules.submitted (fun f => pure (.text f) : Sandbox Unit Unit) ⟨[], [[]]⟩ (),
        ∃ submission ∈ rules.submissions, (∃ ctx, f = submission.text ctx) ∧
          (startsFormula f = true ↔ submission ∉ rules.strays) := by
  have hload : load [] [("Total".toList, "==5".toList),
      ("_filter:x".toList, "eval:foo =BAR()".toList)] =
      .ok ⟨[⟨"Total".toList, .expression (tokenize "==5".toList) "==5".toList false⟩],
        [⟨"x".toList, "eval:foo =BAR()".toList, true, .anyOf [.formula "foo =BAR()".toList]⟩]⟩ := by
    decide +kernel
  exact ⟨_, hload, by decide +kernel, startsFormula_of_submitted hload _ _ _⟩

end Run

end Rowscript
