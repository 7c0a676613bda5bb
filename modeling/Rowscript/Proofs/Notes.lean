import Rowscript.Proofs.MappingRows
import Rowscript.Proofs.Outcome

/-!
# Notes in a mapping

A mapping may hold rows for its readers only: rows without a header, rows whose header begins
with two slashes, and filters that are not marked for evaluation. Such a row may stand anywhere.
It changes neither what a transformation gives nor how it fails, and not what is submitted to the
sandbox, whatever the sandbox does.
-/

namespace Rowscript

/-- A row of a mapping that is for its readers only: it is skipped, or it is a filter that can be
read but is not marked for evaluation. -/
def IsNote (headers : List Text) (row : Text × Text) : Prop :=
  isSkipped row.1 = true ∨
    Text.startsWith filterMarker (Text.trim row.1) = true ∧
      Text.startsWith evalMarker (Text.trim row.2) = false ∧
      ∃ i, readRule headers row.1 row.2 = .ok i

/-- A mapping with notes inserted anywhere. -/
inductive Annotates (headers : List Text) :
    List (Text × Text) → List (Text × Text) → Prop where
  | nil : Annotates headers [] []
  | keep {mapping annotated : List (Text × Text)} (row : Text × Text)
      (h : Annotates headers mapping annotated) :
      Annotates headers (row :: mapping) (row :: annotated)
  | insert {mapping annotated : List (Text × Text)} {row : Text × Text}
      (hnote : IsNote headers row) (h : Annotates headers mapping annotated) :
      Annotates headers mapping (row :: annotated)

/-- A filter is evaluated when its instruction is marked for it. -/
theorem active_of_readFilter {headers : List Text} {name raw : Text} {rule : FilterRule}
    (h : readFilter headers name raw = .ok rule) :
    rule.active = Text.startsWith evalMarker raw := by
  unfold readFilter at h
  simp only at h
  split at h
  · obtain ⟨template, -, hrule⟩ := bind_eq_ok_iff.mp h
    exact (Except.ok.inj hrule) ▸ rfl
  · obtain ⟨_, -, h⟩ := bind_eq_ok_iff.mp h
    split at h
    all_goals
      obtain ⟨conditions, -, hrule⟩ := bind_eq_ok_iff.mp h
      exact (Except.ok.inj hrule) ▸ rfl

/-- A filter that is read is evaluated when its instruction is marked for it. -/
theorem active_of_readRule {headers : List Text} {header instruction : Text} {rule : FilterRule}
    (h : readRule headers header instruction = .ok (.filter rule)) :
    rule.active = Text.startsWith evalMarker (Text.trim instruction) := by
  rw [readRule_eq_ok_iff] at h
  unfold readTrimmed at h
  split at h
  · simp at h
  split at h
  · obtain ⟨other, hread, hi⟩ := bind_eq_ok_iff.mp h
    obtain rfl := Instruction.filter.inj (Except.ok.inj hi)
    exact active_of_readFilter hread
  · obtain ⟨o, -, hi⟩ := bind_eq_ok_iff.mp h
    simp [pure, Except.pure] at hi

namespace RuleSet

/-- A rule set without the filters that are not evaluated. -/
def withoutNotes (rules : RuleSet) : RuleSet :=
  ⟨rules.outputs, rules.filters.filter FilterRule.active⟩

/-- What is added may be added before the notes are dropped. -/
theorem withoutNotes_add (rules : RuleSet) (i : Instruction) :
    (rules.withoutNotes.add i).withoutNotes = (rules.add i).withoutNotes := by
  cases i <;> simp [withoutNotes, add, List.filter_cons, List.filter_filter]

/-- A filter that is not evaluated is dropped again. -/
theorem withoutNotes_add_filter (rules : RuleSet) {rule : FilterRule} (h : rule.active = false) :
    (rules.add (.filter rule)).withoutNotes = rules.withoutNotes := by
  simp [withoutNotes, add, h]

/-- What is loaded without notes is read row by row. -/
theorem map_withoutNotes_load_cons {headers : List Text} {header : Text}
    (h : isSkipped header = false) (instruction : Text) (rest : List (Text × Text)) :
    (load headers ((header, instruction) :: rest)).map withoutNotes = do
      let i ← readRule headers header instruction
      let rules ← (load headers rest).map withoutNotes
      return (rules.add i).withoutNotes := by
  rw [load_cons_of_not_isSkipped h]
  cases readRule headers header instruction with
  | error e => rfl
  | ok i =>
    cases load headers rest with
    | error e => rfl
    | ok rules => exact congrArg Except.ok (rules.withoutNotes_add i).symm

/-- A note adds nothing to what is loaded but notes. -/
theorem map_withoutNotes_load_of_isNote {headers : List Text} {row : Text × Text}
    (h : IsNote headers row) (rest : List (Text × Text)) :
    (load headers (row :: rest)).map withoutNotes = (load headers rest).map withoutNotes := by
  rcases row with ⟨header, instruction⟩
  rcases h with hskip | ⟨hmarker, heval, i, hread⟩
  · rw [load_cons_of_isSkipped hskip]
  cases hskip : isSkipped header with
  | true => rw [load_cons_of_isSkipped hskip]
  | false =>
    obtain ⟨-, rule, rfl⟩ | ⟨hnone, -⟩ := kind_of_readRule hread
    · have hactive : rule.active = false := (active_of_readRule hread).trans heval
      rw [load_cons_of_not_isSkipped hskip, hread]
      cases load headers rest with
      | error e => rfl
      | ok rules => exact congrArg Except.ok (rules.withoutNotes_add_filter hactive)
    · simp [hmarker] at hnone

/-- A mapping with notes is loaded into the same rules but for notes, or fails as it does without
them. -/
theorem map_withoutNotes_load {headers : List Text} {mapping annotated : List (Text × Text)}
    (h : Annotates headers mapping annotated) :
    (load headers annotated).map withoutNotes = (load headers mapping).map withoutNotes := by
  induction h with
  | nil => rfl
  | keep row _ ih =>
    rcases row with ⟨header, instruction⟩
    cases hskip : isSkipped header with
    | true => rw [load_cons_of_isSkipped hskip, load_cons_of_isSkipped hskip, ih]
    | false => rw [map_withoutNotes_load_cons hskip, map_withoutNotes_load_cons hskip, ih]
  | insert hnote _ ih => rw [map_withoutNotes_load_of_isNote hnote, ih]

end RuleSet

section Runs

variable {σ ε : Type} {sandbox : Sandbox σ ε}

/-- Filters that are not evaluated let every row pass. -/
theorem passesAll_filter_active (ctx : Context) (filters : List FilterRule) :
    passesAll sandbox ctx (filters.filter FilterRule.active) = passesAll sandbox ctx filters := by
  induction filters with
  | nil => rfl
  | cons rule rest ih =>
    cases hactive : rule.active with
    | true => rw [List.filter_cons_of_pos hactive, passesAll, passesAll, ih]
    | false =>
      have hpasses : rule.passes sandbox ctx = pure true := by simp [FilterRule.passes, hactive]
      rw [List.filter_cons_of_neg (by simp [hactive]), ih, passesAll, hpasses, pure_bind,
        if_pos rfl]

/-- A row becomes the same without the filters that are not evaluated. -/
theorem RuleSet.evaluateRow_withoutNotes (rules : RuleSet) (ctx : Context) :
    evaluateRow sandbox rules.withoutNotes ctx = evaluateRow sandbox rules ctx := by
  simp only [evaluateRow, withoutNotes, passesAll_filter_active]

/-- Rows become the same without the filters that are not evaluated. -/
theorem RuleSet.processRows_withoutNotes (rules : RuleSet) (source : Source) (kept : Nat)
    (rows : List (List Text)) :
    processRows sandbox source rules.withoutNotes kept rows =
      processRows sandbox source rules kept rows := by
  induction rows generalizing kept with
  | nil => rfl
  | cons row rest ih =>
    rw [processRows_cons, processRows_cons, evaluateRow_withoutNotes]
    refine bind_congr fun cells => ?_
    cases cells with
    | none => exact ih kept
    | some cells => simp only [ih]

/-- A run is the same without the filters that are not evaluated. -/
theorem RuleSet.run_withoutNotes (rules : RuleSet) (source : Source) :
    rules.withoutNotes.run sandbox source = rules.run sandbox source := by
  rw [run, run, processRows_withoutNotes]
  rfl

/-- A transformation depends on the mapping by what is loaded from it without notes. -/
theorem transform_eq_withoutNotes (sandbox : Sandbox σ ε) (source : Source)
    (mapping : List (Text × Text)) :
    transform sandbox source mapping =
      match (RuleSet.load source.headers mapping).map RuleSet.withoutNotes with
      | .error e => throw (.rule e)
      | .ok rules => ExceptT.adapt TransformError.evaluation (rules.run sandbox source) := by
  unfold transform
  cases RuleSet.load source.headers mapping with
  | error e => rfl
  | ok rules => simp only [Except.map, rules.run_withoutNotes]

/-- Notes are inert: wherever they are inserted, a transformation has the same outcome from every
state of the sandbox, be it a result or an error, and the same texts are submitted in the same
order. -/
theorem transform_of_annotates {source : Source} {mapping annotated : List (Text × Text)}
    (h : Annotates source.headers mapping annotated) (sandbox : Sandbox σ ε) (s : σ)
    (before : List Text) :
    outcome (transform sandbox source annotated) s =
        outcome (transform sandbox source mapping) s ∧
      outcome (transform sandbox.recorded source annotated) (s, before) =
        outcome (transform sandbox.recorded source mapping) (s, before) := by
  have heq {τ : Type} (sandbox : Sandbox τ ε) :
      transform sandbox source annotated = transform sandbox source mapping := by
    rw [transform_eq_withoutNotes, RuleSet.map_withoutNotes_load h, ← transform_eq_withoutNotes]
  exact ⟨by rw [heq], by rw [heq]⟩

/-- A sandbox that answers the first two texts and fails on all others. -/
def Sandbox.failingLater : Sandbox Nat Text :=
  fun t => ExceptT.mk fun asked =>
    if asked < 2 then (.ok (.text t), asked + 1) else (.error t, asked)

/-- Notes of all kinds stand among the rules, and the sandbox fails in the second row. -/
theorem transform_of_annotates_failing :
    let mapping := [("A".toList, "src[N]".toList), ("B".toList, "formula:=self[A]*2".toList),
      ("_filter:x".toList, "eval:=ODD(self[B])".toList)]
    let annotated := [(" // to do".toList, "src[Nowhere".toList), ("A".toList, "src[N]".toList),
      (" ".toList, "formula:2".toList), ("_filter:why".toList, "only src[N] as it is".toList),
      ("B".toList, "formula:=self[A]*2".toList), ("_filter:f".toList, "formula:=src[N]>1".toList),
      ("_filter:x".toList, "eval:=ODD(self[B])".toList)]
    let source : Source := ⟨["N".toList], [["5".toList], ["7".toList]]⟩
    Annotates source.headers mapping annotated ∧
      outcome (transform Sandbox.failingLater.recorded source mapping) (0, []) =
        (.error (.evaluation (.sandbox "=7*2".toList)),
          (2, ["=7*2".toList, "=ODD(\"=5*2\")".toList, "=5*2".toList])) ∧
      outcome (transform Sandbox.failingLater.recorded source annotated) (0, []) =
        outcome (transform Sandbox.failingLater.recorded source mapping) (0, []) := by
  intro mapping annotated source
  have hwhy : IsNote source.headers ("_filter:why".toList, "only src[N] as it is".toList) :=
    .inr ⟨by decide, by decide, .filter ⟨"why".toList, "only src[N] as it is".toList, false,
      .anyOf []⟩, by decide +kernel⟩
  have hformula : IsNote source.headers ("_filter:f".toList, "formula:=src[N]>1".toList) :=
    .inr ⟨by decide, by decide, .filter ⟨"f".toList, "formula:=src[N]>1".toList, false,
      .formula "=src[N]>1".toList⟩, by decide +kernel⟩
  have hannotates : Annotates source.headers mapping annotated :=
    .insert (.inl (by decide)) (.keep _ (.insert (.inl (by decide)) (.insert hwhy
      (.keep _ (.insert hformula (.keep _ .nil))))))
  exact ⟨hannotates, by decide +kernel,
    (transform_of_annotates hannotates Sandbox.failingLater 0 []).2⟩

end Runs

end Rowscript
