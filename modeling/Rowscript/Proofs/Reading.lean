import Mathlib.Data.List.Forall2
import Mathlib.Data.List.TakeDrop
import Rowscript.Mapping.RuleSet
import Rowscript.Proofs.Lexemes

/-!
# What rules are read from

Reading a condition, a filter or an output succeeds exactly on the texts that the
relations of this file describe. Each of them says which part of the instruction ends up
where, so that facts about the instruction carry over to what is evaluated.
-/

namespace Rowscript

/-- A sequence of steps succeeds when each of them does. -/
theorem bind_eq_ok_iff {α β ε : Type} {x : Except ε α} {f : α → Except ε β} {b : β} :
    (x >>= f) = .ok b ↔ ∃ a, x = .ok a ∧ f a = .ok b := by
  cases x <;> simp [bind, Except.bind]

/-- Renaming errors changes no success. -/
theorem mapError_eq_ok_iff {α ε ε' : Type} {f : ε → ε'} {x : Except ε α} {a : α} :
    x.mapError f = .ok a ↔ x = .ok a := by
  cases x <;> simp [Except.mapError]

/-- Every source reference in a text names one of the headers. -/
def Known (headers : List Text) (t : Text) : Prop :=
  ∀ r ∈ references t, r.origin = .source → r.column ∈ headers

instance (headers : List Text) (t : Text) : Decidable (Known headers t) :=
  inferInstanceAs (Decidable (∀ r ∈ references t, _))

/-- A part of a text has known references when the text has. -/
theorem Known.of_isInfix {headers : List Text} {s t : Text} (ht : Known headers t)
    (h : s <:+: t) : Known headers s :=
  fun r hr => ht r (references_subset_of_isInfix h hr)

/-- The check of references passes exactly the texts whose source references are known. -/
theorem checkReferences_eq_ok_iff {headers : List Text} {t : Text} :
    checkReferences headers t = .ok () ↔ Known headers t := by
  unfold checkReferences
  cases h : (references t).find? fun r => r.origin = .source && !headers.contains r.column with
  | none =>
    simp only [Known, true_iff]
    intro r hr hsource
    simpa [hsource] using List.find?_eq_none.mp h r hr
  | some r =>
    simp only [reduceCtorEq, false_iff]
    intro hknown
    obtain ⟨hsource, hcolumn⟩ : r.origin = .source ∧ r.column ∉ headers := by
      simpa using List.find?_some h
    exact hcolumn (hknown r (List.mem_of_find?_eq_some h) hsource)

/-- A formula is read when it begins with exactly one equals sign and its references are
known. -/
theorem readFormula_eq_ok_iff {headers : List Text} {t body : Text} :
    readFormula headers t = .ok body ↔
      body = Text.trim t ∧ startsFormula body = true ∧ Known headers body := by
  unfold readFormula
  by_cases hstart : startsFormula (Text.trim t) = true
  · rw [if_pos hstart, bind_eq_ok_iff]
    constructor
    · rintro ⟨_, hcheck, hbody⟩
      obtain rfl := Except.ok.inj hbody
      exact ⟨rfl, hstart, checkReferences_eq_ok_iff.mp hcheck⟩
    · rintro ⟨rfl, -, hknown⟩
      exact ⟨(), checkReferences_eq_ok_iff.mpr hknown, rfl⟩
  · rw [if_neg hstart]
    simp only [reduceCtorEq, false_iff]
    rintro ⟨rfl, h, -⟩
    exact hstart h

/-- A list is read when all its items are, one by one. -/
theorem mapM_eq_ok_iff {α β ε : Type} {f : α → Except ε β} {xs : List α} {ys : List β} :
    xs.mapM f = .ok ys ↔ List.Forall₂ (fun x y => f x = .ok y) xs ys := by
  induction xs generalizing ys with
  | nil => simp [List.mapM_nil, pure, Except.pure, eq_comm]
  | cons x xs ih =>
    rw [List.mapM_cons, List.forall₂_cons_left_iff, bind_eq_ok_iff]
    refine exists_congr fun y => ?_
    rw [bind_eq_ok_iff]
    simp only [ih, pure, Except.pure, Except.ok.injEq]
    constructor
    · rintro ⟨hy, zs, hzs, rfl⟩
      exact ⟨zs, hy, hzs, rfl⟩
    · rintro ⟨zs, hy, hzs, rfl⟩
      exact ⟨hy, zs, hzs, rfl⟩

/-- Whatever has been read from a list has been read from one of its items. -/
theorem exists_of_mem_forall₂ {α β : Type} {R : α → β → Prop} {xs : List α} {ys : List β}
    (h : List.Forall₂ R xs ys) {y : β} (hy : y ∈ ys) : ∃ x ∈ xs, R x y := by
  induction h with
  | nil => simp at hy
  | @cons x z xs zs hxz _ ih =>
    rcases List.mem_cons.mp hy with rfl | hy
    · exact ⟨x, List.mem_cons_self, hxz⟩
    · obtain ⟨w, hw, hwy⟩ := ih hy
      exact ⟨w, List.mem_cons_of_mem x hw, hwy⟩

/-- The condition that a text stands for: a comparison, cut at the first operator, or a
formula where there is no operator. -/
inductive Condition.ReadFrom (t : Text) : Condition → Prop where
  | comparison {left right : List Lexeme} {operator : Lexeme}
      (hsplit : lexemes t = left ++ operator :: right)
      (hfirst : ∀ l ∈ left, l.token.kind ≠ .operator) (hoperator : operator.token.kind = .operator)
      (hleft : left ≠ []) (hright : right ≠ []) :
      ReadFrom t (.comparison (.ofLexemes left) operator.token.value (.ofLexemes right))
  | formula {l : Lexeme} (hnone : ∀ l ∈ lexemes t, l.token.kind ≠ .operator)
      (hl : l ∈ lexemes t) (hformula : l.token.kind = .formula) : ReadFrom t (.formula t)

/-- A condition that is read is the one that its text stands for. -/
theorem Condition.readFrom_of_readCondition {t : Text} {c : Condition}
    (h : readCondition t = .ok c) : Condition.ReadFrom t c := by
  unfold readCondition at h
  simp only [List.span_eq_takeWhile_dropWhile] at h
  split at h
  · simp at h
  have hsplit := List.takeWhile_append_dropWhile (p := fun l => l.token.kind ≠ .operator)
    (l := lexemes t)
  have hfirst : ∀ l ∈ (lexemes t).takeWhile (fun l => l.token.kind ≠ .operator),
      l.token.kind ≠ .operator := fun l hl => by simpa using List.mem_takeWhile_imp hl
  split at h
  · next left operator right hspan =>
    obtain ⟨rfl, hdrop⟩ := Prod.mk.inj hspan
    have hoperator : operator.token.kind = .operator := by
      have hhead := List.head?_dropWhile_not
        (fun l : Lexeme => l.token.kind ≠ .operator) (lexemes t)
      rw [hdrop] at hhead
      simpa using hhead
    rw [hdrop] at hsplit
    split at h
    · simp at h
    · next hsides =>
      simp only [Bool.or_eq_true, decide_eq_true_eq, not_or] at hsides
      obtain rfl := Except.ok.inj h
      exact .comparison hsplit.symm hfirst hoperator hsides.1 hsides.2
  · next hspan =>
    obtain ⟨_, hdrop⟩ := Prod.mk.inj hspan
    rw [hdrop, List.append_nil] at hsplit
    rw [hsplit] at hfirst
    split at h
    · next hany =>
      obtain ⟨l, hl, hformula⟩ := List.any_eq_true.mp hany
      obtain rfl := Except.ok.inj h
      exact .formula hfirst hl (by simpa using hformula)
    · simp at h

/-- The pieces between marks for alternatives are parts of the text, and the first one is
its beginning. -/
theorem infix_of_mem_splitAlternatives (t : Text) :
    (∀ piece ∈ splitAlternatives t, piece <:+: t) ∧
      ∀ piece ∈ (splitAlternatives t).head?, piece <+: t := by
  -- A character is put before the first piece, so that piece has to stay a beginning.
  fun_induction splitAlternatives t with
  | case1 => simp
  | case2 rest ih =>
    refine ⟨fun piece hpiece => ?_, by simp⟩
    rcases List.mem_cons.mp hpiece with rfl | hpiece
    · exact List.nil_infix
    · exact (ih.1 piece hpiece).trans (List.suffix_append ['|', '|'] rest).isInfix
  | case3 c rest hmark hnil ih =>
    have hone : [c] <+: c :: rest := (List.prefix_cons_inj c).mpr List.nil_prefix
    refine ⟨fun piece hpiece => ?_, by simp⟩
    exact List.mem_singleton.mp hpiece ▸ hone.isInfix
  | case4 c rest hmark piece pieces hcons ih =>
    have hfirst : c :: piece <+: c :: rest :=
      (List.prefix_cons_inj c).mpr (ih.2 piece (by simp [hcons]))
    refine ⟨fun other hother => ?_, by simpa using hfirst⟩
    rcases List.mem_cons.mp hother with rfl | hother
    · exact hfirst.isInfix
    · exact (ih.1 other (by simp [hcons, hother])).trans (List.suffix_cons c rest).isInfix

/-- The filter that an instruction stands for. A note is only checked; an evaluated filter
is one formula, or the conditions between the marks for alternatives. -/
inductive FilterRule.ReadFrom (headers : List Text) (name raw : Text) : FilterRule → Prop where
  | note {test : FilterTest} : ReadFrom headers name raw ⟨name, raw, false, test⟩
  | formula {text t : Text} (hraw : raw = evalMarker ++ text)
      (htext : Text.trim text = formulaMarker ++ t) (hstart : startsFormula (Text.trim t) = true)
      (hknown : Known headers (Text.trim t)) :
      ReadFrom headers name raw ⟨name, raw, true, .formula (Text.trim t)⟩
  | anyOf {text : Text} {conditions : List Condition} (hraw : raw = evalMarker ++ text)
      (hknown : Known headers (Text.trim text))
      (hconditions : List.Forall₂ (fun piece c => Condition.ReadFrom (Text.trim piece) c)
        (splitAlternatives (Text.trim text)) conditions) :
      ReadFrom headers name raw ⟨name, raw, true, .anyOf conditions⟩

/-- The conditions that are read stand for the pieces between the marks. -/
theorem readFrom_of_readConditions {t : Text} {conditions : List Condition}
    (h : readConditions t = .ok conditions) :
    List.Forall₂ (fun piece c => Condition.ReadFrom (Text.trim piece) c)
      (splitAlternatives t) conditions :=
  (mapM_eq_ok_iff.mp h).imp fun _ _ hread => Condition.readFrom_of_readCondition hread

/-- A filter that is read is the one that its instruction stands for. -/
theorem FilterRule.readFrom_of_readFilter {headers : List Text} {name raw : Text}
    {rule : FilterRule} (h : readFilter headers name raw = .ok rule) :
    FilterRule.ReadFrom headers name raw rule := by
  unfold readFilter at h
  cases heval : Text.after? evalMarker raw with
  | none =>
    simp only [heval, Option.isSome_none] at h
    split at h
    · obtain ⟨template, -, hrule⟩ := bind_eq_ok_iff.mp h
      exact Except.ok.inj hrule ▸ .note
    · obtain ⟨_, -, h⟩ := bind_eq_ok_iff.mp h
      obtain ⟨conditions, -, hrule⟩ := bind_eq_ok_iff.mp h
      exact Except.ok.inj hrule ▸ .note
  | some text =>
    have hraw := Text.after?_eq_some_iff.mp heval
    simp only [heval, Option.isSome_some, Option.map_some, Option.getD_some, if_true] at h
    split at h
    · next t hformula =>
      obtain ⟨template, hread, hrule⟩ := bind_eq_ok_iff.mp h
      obtain ⟨rfl, hstart, hknown⟩ := readFormula_eq_ok_iff.mp hread
      exact Except.ok.inj hrule ▸ .formula hraw (Text.after?_eq_some_iff.mp hformula) hstart hknown
    · obtain ⟨_, hcheck, h⟩ := bind_eq_ok_iff.mp h
      obtain ⟨conditions, hread, hrule⟩ := bind_eq_ok_iff.mp h
      exact Except.ok.inj hrule ▸ .anyOf hraw (checkReferences_eq_ok_iff.mp hcheck)
        (readFrom_of_readConditions hread)

/-- An instruction is unmarked when neither marker of an output begins it. -/
def Unmarked (raw : Text) : Prop :=
  Text.after? constantMarker raw = none ∧ Text.after? formulaMarker raw = none

/-- The output that an instruction stands for. -/
inductive Output.ReadFrom (headers : List Text) : Text → Output → Prop where
  | constant (value : Text) :
      ReadFrom headers (constantMarker ++ value) (.constant (Text.trim value))
  | formula {t : Text} (hstart : startsFormula (Text.trim t) = true)
      (hknown : Known headers (Text.trim t)) :
      ReadFrom headers (formulaMarker ++ t) (.formula (Text.trim t))
  | direct {raw column written : Text} (hraw : Unmarked raw) (hknown : Known headers raw)
      (htoken : tokenize raw = [⟨.text, column, written⟩]) : ReadFrom headers raw (.direct column)
  | expression {raw : Text} (hraw : Unmarked raw) (hknown : Known headers raw)
      (htokens : ∀ column written, tokenize raw ≠ [⟨.text, column, written⟩]) :
      ReadFrom headers raw (.expression (tokenize raw) raw ((tokenize raw).any Token.hasReference))

/-- An unmarked instruction is read by its references and its tokens. -/
theorem readOutput_of_unmarked {headers : List Text} {raw : Text} (hraw : Unmarked raw) :
    readOutput headers raw = (do
      checkReferences headers raw
      match tokenize raw with
      | [⟨.text, column, _⟩] => return .direct column
      | _ => return .expression (tokenize raw) raw ((tokenize raw).any Token.hasReference)) := by
  obtain ⟨hconstant, hformula⟩ := hraw
  unfold readOutput
  generalize Text.after? constantMarker raw = constant at hconstant ⊢
  generalize Text.after? formulaMarker raw = formula at hformula ⊢
  subst hconstant hformula
  rfl

/-- An output is read when it is the one that its instruction stands for. -/
theorem readOutput_eq_ok_iff {headers : List Text} {raw : Text} {o : Output} :
    readOutput headers raw = .ok o ↔ Output.ReadFrom headers raw o := by
  constructor
  · intro h
    cases hconstant : Text.after? constantMarker raw with
    | some value =>
      rw [readOutput, hconstant] at h
      rw [Text.after?_eq_some_iff.mp hconstant]
      exact Except.ok.inj h ▸ .constant value
    | none =>
      cases hformula : Text.after? formulaMarker raw with
      | some t =>
        rw [readOutput, hconstant, hformula] at h
        obtain ⟨body, hread, hrule⟩ := bind_eq_ok_iff.mp h
        obtain ⟨rfl, hstart, hknown⟩ := readFormula_eq_ok_iff.mp hread
        rw [Text.after?_eq_some_iff.mp hformula]
        exact Except.ok.inj hrule ▸ .formula hstart hknown
      | none =>
        have hraw : Unmarked raw := ⟨hconstant, hformula⟩
        rw [readOutput_of_unmarked hraw] at h
        obtain ⟨_, hcheck, h⟩ := bind_eq_ok_iff.mp h
        have hknown := checkReferences_eq_ok_iff.mp hcheck
        split at h
        · next htoken => exact Except.ok.inj h ▸ .direct hraw hknown htoken
        · next htokens => exact Except.ok.inj h ▸ .expression hraw hknown htokens
  · intro h
    cases h with
    | constant value => rw [readOutput, Text.after?_append]; rfl
    | formula hstart hknown =>
      rw [readOutput, Text.after?_append]
      exact bind_eq_ok_iff.mpr ⟨_, readFormula_eq_ok_iff.mpr ⟨rfl, hstart, hknown⟩, rfl⟩
    | direct hraw hknown htoken =>
      rw [readOutput_of_unmarked hraw, htoken]
      exact bind_eq_ok_iff.mpr ⟨(), checkReferences_eq_ok_iff.mpr hknown, rfl⟩
    | expression hraw hknown htokens =>
      rw [readOutput_of_unmarked hraw]
      refine bind_eq_ok_iff.mpr ⟨(), checkReferences_eq_ok_iff.mpr hknown, ?_⟩
      split
      · next htoken => exact absurd htoken (htokens _ _)
      · rfl

/-- A rule is read from its trimmed header and its trimmed instruction. -/
theorem readRule_eq_ok_iff {headers : List Text} {header instruction : Text} {i : Instruction} :
    readRule headers header instruction = .ok i ↔
      readTrimmed headers (Text.trim header) (Text.trim instruction) = .ok i := by
  rw [readRule, mapError_eq_ok_iff]

/-- A rule that is read has balanced brackets, and its header decides whether it is read as an
output or as a filter. -/
theorem exists_read_of_readRule {headers : List Text} {header instruction : Text}
    {i : Instruction} (h : readRule headers header instruction = .ok i) :
    Text.bracketsBalanced (Text.trim instruction) = true ∧
      ((∃ o, i = .output ⟨Text.trim header, o⟩ ∧
          readOutput headers (Text.trim instruction) = .ok o) ∨
        ∃ name rule, i = .filter rule ∧
          readFilter headers name (Text.trim instruction) = .ok rule) := by
  rw [readRule_eq_ok_iff] at h
  unfold readTrimmed at h
  split at h
  · simp at h
  next hbalanced =>
  refine ⟨by simpa using hbalanced, ?_⟩
  split at h
  · next name _ =>
    obtain ⟨rule, hread, hi⟩ := bind_eq_ok_iff.mp h
    exact .inr ⟨_, rule, (Except.ok.inj hi).symm, hread⟩
  · obtain ⟨o, hread, hi⟩ := bind_eq_ok_iff.mp h
    exact .inl ⟨o, (Except.ok.inj hi).symm, hread⟩

/-- What a rule is read into: an output, or under a filter's header a filter. -/
theorem readFrom_of_readRule {headers : List Text} {header instruction : Text} {i : Instruction}
    (h : readRule headers header instruction = .ok i) :
    (∃ o, i = .output ⟨Text.trim header, o⟩ ∧
        Output.ReadFrom headers (Text.trim instruction) o) ∨
      ∃ name rule, i = .filter rule ∧
        FilterRule.ReadFrom headers name (Text.trim instruction) rule := by
  rcases (exists_read_of_readRule h).2 with ⟨o, hi, hread⟩ | ⟨name, rule, hi, hread⟩
  · exact .inl ⟨o, hi, readOutput_eq_ok_iff.mp hread⟩
  · exact .inr ⟨name, rule, hi, FilterRule.readFrom_of_readFilter hread⟩

/-- Rules are read one after the other. -/
theorem readRules_cons {headers : List Text} (header instruction : Text)
    (rest : List (Text × Text)) :
    readRules headers ((header, instruction) :: rest) = do
      let i ← readRule headers header instruction
      let others ← readRules headers rest
      return i :: others :=
  List.mapM_cons

namespace RuleSet

/-- An instruction that is pushed stands before the ones that follow it. -/
theorem push_append (rules : RuleSet) (i : Instruction) (rest : List Instruction) :
    (rules.push i).outputs ++ (ofInstructions rest).outputs =
        rules.outputs ++ (ofInstructions (i :: rest)).outputs ∧
      (rules.push i).filters ++ (ofInstructions rest).filters =
        rules.filters ++ (ofInstructions (i :: rest)).filters := by
  cases i with
  | output rule => exact ⟨List.append_assoc .., rfl⟩
  | filter rule => exact ⟨rfl, List.append_assoc ..⟩

/-- Loading rows into a rule set reads the ones that are not skipped and puts their columns
behind its columns and their filters behind its filters. -/
theorem loadInto_eq (headers : List Text) (rules : RuleSet) (mapping : List (Text × Text)) :
    loadInto headers rules mapping =
      (readRules headers (mapping.filter fun rule => !isSkipped rule.1)).map fun instructions =>
        ⟨rules.outputs ++ (ofInstructions instructions).outputs,
          rules.filters ++ (ofInstructions instructions).filters⟩ := by
  induction mapping generalizing rules with
  | nil => exact congrArg Except.ok (by simp [ofInstructions])
  | cons row rest ih =>
    rcases row with ⟨header, instruction⟩
    cases hskip : isSkipped header with
    | true => simp [loadInto, hskip, ih]
    | false =>
      have hkept : ((header, instruction) :: rest).filter (fun rule => !isSkipped rule.1) =
          (header, instruction) :: rest.filter fun rule => !isSkipped rule.1 :=
        List.filter_cons_of_pos (by simp [hskip])
      rw [hkept, readRules_cons, loadInto, hskip]
      simp only [Bool.false_eq_true, if_false, ih]
      cases readRule headers header instruction with
      | error e => rfl
      | ok i =>
        cases readRules headers (rest.filter fun rule => !isSkipped rule.1) with
        | error e => rfl
        | ok others =>
          obtain ⟨houtputs, hfilters⟩ := push_append rules i others
          exact congrArg Except.ok (congrArg₂ mk houtputs hfilters)

/-- Loading a mapping is reading all its rows but the notes and sorting columns from filters. -/
theorem load_eq (headers : List Text) (mapping : List (Text × Text)) :
    load headers mapping =
      (readRules headers (mapping.filter fun rule => !isSkipped rule.1)).map ofInstructions :=
  loadInto_eq headers ⟨[], []⟩ mapping

/-- Loading succeeds when all rows of the mapping but the notes can be read. -/
theorem load_eq_ok_iff {headers : List Text} {mapping : List (Text × Text)} {rules : RuleSet} :
    load headers mapping = .ok rules ↔
      ∃ instructions, readRules headers (mapping.filter fun rule => !isSkipped rule.1) =
        .ok instructions ∧ rules = ofInstructions instructions := by
  rw [load_eq]
  cases readRules headers (mapping.filter fun rule => !isSkipped rule.1) with
  | error e => simp [Except.map]
  | ok instructions => simp [Except.map, eq_comm]

/-- Every output of a mapping that is loaded stands for an instruction of it. -/
theorem exists_readFrom_of_mem_outputs {headers : List Text} {mapping : List (Text × Text)}
    {rules : RuleSet} (h : load headers mapping = .ok rules) {rule : OutputRule}
    (hrule : rule ∈ rules.outputs) : ∃ raw, Output.ReadFrom headers raw rule.output := by
  obtain ⟨instructions, hread, rfl⟩ := load_eq_ok_iff.mp h
  obtain ⟨i, hi, hrule⟩ := List.mem_filterMap.mp hrule
  obtain ⟨row, -, hrow⟩ := exists_of_mem_forall₂ (mapM_eq_ok_iff.mp hread) hi
  rcases readFrom_of_readRule hrow with ⟨o, rfl, ho⟩ | ⟨name, filter, rfl, -⟩
  · obtain rfl := Option.some.inj hrule
    exact ⟨_, ho⟩
  · simp [Instruction.output?] at hrule

/-- Every filter of a mapping that is loaded stands for an instruction of it. -/
theorem exists_readFrom_of_mem_filters {headers : List Text} {mapping : List (Text × Text)}
    {rules : RuleSet} (h : load headers mapping = .ok rules) {rule : FilterRule}
    (hrule : rule ∈ rules.filters) : ∃ name raw, FilterRule.ReadFrom headers name raw rule := by
  obtain ⟨instructions, hread, rfl⟩ := load_eq_ok_iff.mp h
  obtain ⟨i, hi, hrule⟩ := List.mem_filterMap.mp hrule
  obtain ⟨row, -, hrow⟩ := exists_of_mem_forall₂ (mapM_eq_ok_iff.mp hread) hi
  rcases readFrom_of_readRule hrow with ⟨o, rfl, -⟩ | ⟨name, filter, rfl, hfilter⟩
  · simp [Instruction.filter?] at hrule
  · obtain rfl := Option.some.inj hrule
    exact ⟨name, _, hfilter⟩

end RuleSet

end Rowscript
