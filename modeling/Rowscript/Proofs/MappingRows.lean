import Rowscript.Proofs.Reading

/-!
# Rows of a mapping

A mapping is loaded row by row: a note adds nothing, a filter is added to the filters and any
other row to the output columns. So the columns and the filters are read apart from each other,
each in their order, and it makes no difference how their rows are mixed.
-/

namespace Rowscript

/-- Whether a row of a mapping is an output column. -/
def isColumnRow (row : Text × Text) : Bool :=
  !isSkipped row.1 && !Text.startsWith filterMarker (Text.trim row.1)

/-- Whether a row of a mapping is a filter. -/
def isFilterRow (row : Text × Text) : Bool :=
  !isSkipped row.1 && Text.startsWith filterMarker (Text.trim row.1)

/-- The header of a rule says whether it is read as a filter or as an output column. -/
theorem kind_of_readRule {headers : List Text} {header instruction : Text} {i : Instruction}
    (h : readRule headers header instruction = .ok i) :
    (Text.startsWith filterMarker (Text.trim header) = true ∧ ∃ rule, i = .filter rule) ∨
      Text.startsWith filterMarker (Text.trim header) = false ∧ ∃ rule, i = .output rule := by
  rw [readRule_eq_ok_iff] at h
  unfold readTrimmed at h
  unfold Text.startsWith
  split at h
  · simp at h
  split at h
  · next name hname =>
    obtain ⟨rule, -, hi⟩ := bind_eq_ok_iff.mp h
    exact .inl ⟨by rw [hname]; rfl, rule, (Except.ok.inj hi).symm⟩
  · next hnone =>
    obtain ⟨o, -, hi⟩ := bind_eq_ok_iff.mp h
    exact .inr ⟨by rw [hnone]; rfl, _, (Except.ok.inj hi).symm⟩

namespace RuleSet

/-- A rule set with one more instruction in front of it. -/
def add (rules : RuleSet) : Instruction → RuleSet
  | .output rule => { rules with outputs := rule :: rules.outputs }
  | .filter rule => { rules with filters := rule :: rules.filters }

/-- Instructions are added to a rule set one by one. -/
theorem ofInstructions_cons (i : Instruction) (rest : List Instruction) :
    ofInstructions (i :: rest) = (ofInstructions rest).add i := by
  cases i <;> rfl

variable {headers : List Text} {header instruction : Text}

/-- A row that is skipped adds nothing to what is loaded. -/
theorem load_cons_of_isSkipped (h : isSkipped header = true) (rest : List (Text × Text)) :
    load headers ((header, instruction) :: rest) = load headers rest := by
  simp [load_eq, h]

/-- Any other row adds what is read from it. -/
theorem load_cons_of_not_isSkipped (h : isSkipped header = false) (rest : List (Text × Text)) :
    load headers ((header, instruction) :: rest) = do
      let i ← readRule headers header instruction
      let rules ← load headers rest
      return rules.add i := by
  have hfilter : ((header, instruction) :: rest).filter (fun rule => !isSkipped rule.1) =
      (header, instruction) :: rest.filter fun rule => !isSkipped rule.1 :=
    List.filter_cons_of_pos (by simp [h])
  rw [load_eq, load_eq, hfilter, readRules_cons]
  cases readRule headers header instruction with
  | error e => rfl
  | ok i =>
    cases readRules headers (rest.filter fun rule => !isSkipped rule.1) with
    | error e => rfl
    | ok others => exact congrArg Except.ok (ofInstructions_cons i others)

/-- A mapping is loaded when its columns and its filters can be read, each in their order. -/
theorem load_eq_ok_iff_rows {mapping : List (Text × Text)} {rules : RuleSet} :
    load headers mapping = .ok rules ↔
      List.Forall₂ (fun row rule => readRule headers row.1 row.2 = .ok (.output rule))
          (mapping.filter isColumnRow) rules.outputs ∧
        List.Forall₂ (fun row rule => readRule headers row.1 row.2 = .ok (.filter rule))
          (mapping.filter isFilterRow) rules.filters := by
  induction mapping generalizing rules with
  | nil =>
    rcases rules with ⟨outputs, filters⟩
    have hload : load headers [] = .ok ⟨[], []⟩ := rfl
    simp only [hload, List.filter_nil, List.forall₂_nil_left_iff, Except.ok.injEq, mk.injEq]
    exact and_congr eq_comm eq_comm
  | cons row rest ih =>
    rcases row with ⟨header, instruction⟩
    cases hskip : isSkipped header with
    | true => simp [load_cons_of_isSkipped hskip, ih, isColumnRow, isFilterRow, hskip]
    | false =>
      -- The row is read into the first rule of its kind, and the other kind is as before.
      rw [load_cons_of_not_isSkipped hskip]
      simp only [bind_eq_ok_iff, ih]
      cases hmarker : Text.startsWith filterMarker (Text.trim header) with
      | true =>
        simp only [isColumnRow, isFilterRow, List.filter_cons, hskip, hmarker, Bool.not_true,
          Bool.not_false, Bool.and_true, Bool.and_false, Bool.false_eq_true, if_true, if_false,
          List.forall₂_cons_left_iff]
        constructor
        · rintro ⟨i, hread, others, ⟨hcolumns, hfilters⟩, hrules⟩
          obtain ⟨-, rule, rfl⟩ | ⟨hnone, -⟩ := kind_of_readRule hread
          · obtain rfl := Except.ok.inj hrules
            exact ⟨hcolumns, rule, others.filters, hread, hfilters, rfl⟩
          · simp [hmarker] at hnone
        · rintro ⟨hcolumns, rule, filters, hread, hfilters, hrules⟩
          refine ⟨_, hread, ⟨rules.outputs, filters⟩, ⟨hcolumns, hfilters⟩, ?_⟩
          exact congrArg Except.ok (by rw [add, ← hrules])
      | false =>
        simp only [isColumnRow, isFilterRow, List.filter_cons, hskip, hmarker, Bool.not_false,
          Bool.and_true, Bool.and_false, Bool.false_eq_true, if_true, if_false,
          List.forall₂_cons_left_iff]
        constructor
        · rintro ⟨i, hread, others, ⟨hcolumns, hfilters⟩, hrules⟩
          obtain ⟨hsome, -⟩ | ⟨-, rule, rfl⟩ := kind_of_readRule hread
          · simp [hmarker] at hsome
          · obtain rfl := Except.ok.inj hrules
            exact ⟨⟨rule, others.outputs, hread, hcolumns, rfl⟩, hfilters⟩
        · rintro ⟨⟨rule, outputs, hread, hcolumns, hrules⟩, hfilters⟩
          refine ⟨_, hread, ⟨outputs, rules.filters⟩, ⟨hcolumns, hfilters⟩, ?_⟩
          exact congrArg Except.ok (by rw [add, ← hrules])

end RuleSet

end Rowscript
