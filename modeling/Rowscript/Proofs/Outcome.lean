import Rowscript.Mapping.Transform

/-!
# Outcomes of evaluations

An evaluation that begins in a state of the sandbox ends in one, with a value or an error.
This file computes outcomes step by step, says what it means that an evaluation keeps an
invariant of the state, and gives the processing of a row as a single evaluation.
-/

namespace Rowscript

variable {σ ε ε' α β : Type}

/-- The value or the error of a computation that begins in a state, and the state it leaves. -/
def outcome (x : ExceptT ε (StateM σ) α) (s : σ) : Except ε α × σ := x.run.run s

/-- Computations with the same outcomes are the same. -/
theorem ext_outcome {x y : ExceptT ε (StateM σ) α} (h : ∀ s, outcome x s = outcome y s) : x = y :=
  ExceptT.ext (StateT.ext h)

@[simp] theorem outcome_mk_pure (r : Except ε α) (s : σ) :
    outcome (ExceptT.mk (pure r : StateM σ (Except ε α))) s = (r, s) := rfl

/-- A value by itself leaves the state. -/
theorem outcome_pure (a : α) (s : σ) :
    outcome (pure a : ExceptT ε (StateM σ) α) s = (.ok a, s) := rfl

/-- A step after another begins in the state that the first one leaves, unless that fails. -/
theorem outcome_bind (x : ExceptT ε (StateM σ) α) (f : α → ExceptT ε (StateM σ) β) (s : σ) :
    outcome (x >>= f) s = match outcome x s with
      | (.ok a, s') => outcome (f a) s'
      | (.error e, s') => (.error e, s') := by
  unfold outcome
  rw [ExceptT.run_bind, StateT.run_bind]
  rcases h : x.run.run s with ⟨_ | _, s'⟩ <;> rfl

/-- Two steps come to a value when the first one does and the second one does from there. -/
theorem outcome_bind_eq_ok_iff {x : ExceptT ε (StateM σ) α} {f : α → ExceptT ε (StateM σ) β}
    {s s' : σ} {b : β} :
    outcome (x >>= f) s = (.ok b, s') ↔
      ∃ a t, outcome x s = (.ok a, t) ∧ outcome (f a) t = (.ok b, s') := by
  rw [outcome_bind]
  rcases outcome x s with ⟨e | a, t⟩
  · simp
  · constructor
    · exact fun h => ⟨a, t, rfl, h⟩
    · rintro ⟨_, _, hx, h⟩
      obtain ⟨hvalue, rfl⟩ := Prod.mk.inj hx
      obtain rfl := Except.ok.inj hvalue
      exact h

/-- Looking at the state leaves it. -/
theorem outcome_get_bind (f : σ → ExceptT ε (StateM σ) α) (s : σ) :
    outcome (get >>= f) s = outcome (f s) s := rfl

/-- A handler takes over where a computation fails, in the state that it leaves. -/
theorem outcome_tryCatch (x : ExceptT ε (StateM σ) α) (handler : ε → ExceptT ε (StateM σ) α)
    (s : σ) : outcome (tryCatch x handler) s = match outcome x s with
      | (.ok a, s') => (.ok a, s')
      | (.error e, s') => outcome (handler e) s' := by
  have hcatch : outcome (tryCatch x handler) s =
      (x.run >>= fun r => match r with
        | .ok a => pure (.ok a)
        | .error e => (handler e).run : StateM σ (Except ε α)).run s := rfl
  rw [hcatch, StateT.run_bind]
  unfold outcome
  rcases x.run.run s with ⟨_ | _, s'⟩ <;> rfl

/-- A function of the value leaves the state. -/
theorem outcome_map (f : α → β) (x : ExceptT ε (StateM σ) α) (s : σ) :
    outcome (f <$> x) s = ((outcome x s).1.map f, (outcome x s).2) := by
  rw [← bind_pure_comp, outcome_bind]
  rcases outcome x s with ⟨_ | _, s'⟩ <;> rfl

/-- Renaming errors changes neither values nor states. -/
theorem outcome_adapt (f : ε → ε') (x : ExceptT ε (StateM σ) α) (s : σ) :
    outcome (ExceptT.adapt f x) s = ((outcome x s).1.mapError f, (outcome x s).2) := rfl

/-- Renaming errors changes no success. -/
theorem outcome_adapt_eq_ok_iff {f : ε → ε'} {x : ExceptT ε (StateM σ) α} {s s' : σ} {a : α} :
    outcome (ExceptT.adapt f x) s = (.ok a, s') ↔ outcome x s = (.ok a, s') := by
  rw [outcome_adapt]
  rcases outcome x s with ⟨e | b, t⟩
  · change (Except.error (f e), t) = _ ↔ _
    simp
  · change (Except.ok b, t) = _ ↔ _
    simp

/-- Errors can be renamed step by step. -/
theorem adapt_bind (f : ε → ε') (x : ExceptT ε (StateM σ) α) (g : α → ExceptT ε (StateM σ) β) :
    ExceptT.adapt f (x >>= g) = ExceptT.adapt f x >>= fun a => ExceptT.adapt f (g a) := by
  refine ext_outcome fun s => ?_
  simp only [outcome_bind, outcome_adapt]
  rcases outcome x s with ⟨_ | _, s'⟩ <;> rfl

/-- From every state with the invariant, a computation comes to one with a value of the
given kind, or it fails in a given way. -/
def Satisfies (invariant : σ → Prop) (post : α → Prop) (failure : ε → σ → Prop)
    (x : ExceptT ε (StateM σ) α) : Prop :=
  ∀ s, invariant s → match outcome x s with
    | (.ok a, s') => invariant s' ∧ post a
    | (.error e, s') => invariant s' ∧ failure e s'

namespace Satisfies

variable {invariant : σ → Prop} {post : α → Prop} {next : β → Prop} {failure : ε → σ → Prop}

/-- A value of the given kind keeps the state. -/
theorem pure {a : α} (h : post a) :
    Satisfies invariant post failure (pure a : ExceptT ε (StateM σ) α) :=
  fun _ hs => ⟨hs, h⟩

/-- Steps follow one another when each begins with what the one before guarantees. -/
theorem bind {x : ExceptT ε (StateM σ) α} {f : α → ExceptT ε (StateM σ) β}
    (hx : Satisfies invariant post failure x)
    (hf : ∀ a, post a → Satisfies invariant next failure (f a)) :
    Satisfies invariant next failure (x >>= f) := by
  intro s hs
  have h := hx s hs
  rw [outcome_bind]
  rcases hout : outcome x s with ⟨e | a, s'⟩
  · simpa only [hout] using h
  · simp only [hout] at h
    exact hf a h.2 s' h.1

/-- What may come of a step in every state may come of it in the state that is looked at. -/
theorem of_get_bind {f : σ → ExceptT ε (StateM σ) α}
    (hf : ∀ s, Satisfies invariant post failure (f s)) :
    Satisfies invariant post failure (get >>= f) := fun s hs => hf s s hs

/-- An error of the given kind keeps the state. -/
theorem of_throw {e : ε} (h : ∀ s, failure e s) :
    Satisfies invariant post failure (throw e : ExceptT ε (StateM σ) α) :=
  fun s hs => ⟨hs, h s⟩

/-- A change of the state that keeps the invariant. -/
theorem of_modify {f : σ → σ} {post : Unit → Prop} (hf : ∀ s, invariant s → invariant (f s))
    (h : post ()) :
    Satisfies invariant post failure (modify f : ExceptT ε (StateM σ) Unit) :=
  fun s hs => ⟨hf s hs, h⟩

/-- The invariant holds afterwards. -/
theorem keeps {x : ExceptT ε (StateM σ) α} {s : σ} (h : Satisfies invariant post failure x)
    (hs : invariant s) : invariant (outcome x s).2 := by
  have h := h s hs
  rcases hout : outcome x s with ⟨e | a, s'⟩ <;> simp only [hout] at h <;> exact h.1

/-- An error is one of the given ones. -/
theorem failure_of_error {x : ExceptT ε (StateM σ) α} {s s' : σ} {e : ε}
    (h : Satisfies invariant post failure x) (hs : invariant s)
    (hout : outcome x s = (.error e, s')) : failure e s' := by
  have h := h s hs
  simp only [hout] at h
  exact h.2

/-- A computation that cannot fail comes to a value of the given kind. -/
theorem exists_ok {x : ExceptT ε (StateM σ) α} {s : σ}
    (h : Satisfies invariant post (fun _ _ => False) x) (hs : invariant s) :
    ∃ a s', outcome x s = (.ok a, s') ∧ post a := by
  have h := h s hs
  rcases hout : outcome x s with ⟨e | a, s'⟩
  · simp [hout] at h
  · simp only [hout] at h
    exact ⟨a, s', rfl, h.2⟩

/-- Nothing is asked of any outcome. -/
theorem trivial (x : ExceptT ε (StateM σ) α) :
    Satisfies (fun _ => True) (fun _ => True) (fun _ _ => True) x := by
  intro s _
  split <;> exact ⟨True.intro, True.intro⟩

/-- A value that a computation gives is one that it gives from some state. -/
theorem self (x : ExceptT ε (StateM σ) α) :
    Satisfies (fun _ => True) (fun a => ∃ s s', outcome x s = (.ok a, s')) (fun _ _ => True) x := by
  intro s _
  rcases hout : outcome x s with ⟨e | a, s'⟩
  · exact ⟨True.intro, True.intro⟩
  · exact ⟨True.intro, s, s', hout⟩

/-- Steps may be replaced by others that agree on the values that can come before them. -/
theorem bind_congr {x : ExceptT ε (StateM σ) α} {f g : α → ExceptT ε (StateM σ) β}
    (hx : Satisfies (fun _ => True) post (fun _ _ => True) x) (hfg : ∀ a, post a → f a = g a) :
    x >>= f = x >>= g := by
  refine ext_outcome fun s => ?_
  have h := hx s True.intro
  rw [outcome_bind, outcome_bind]
  rcases hout : outcome x s with ⟨e | a, s'⟩
  · rfl
  · simp only [hout] at h
    exact congrArg (outcome · s') (hfg a h.2)

/-- Renaming errors leaves what is said about values. -/
theorem adapt {renamed : ε' → σ → Prop} {f : ε → ε'} {x : ExceptT ε (StateM σ) α}
    (h : Satisfies invariant post failure x) (hfailure : ∀ e s, failure e s → renamed (f e) s) :
    Satisfies invariant post renamed (ExceptT.adapt f x) := by
  intro s hs
  have h := h s hs
  rw [outcome_adapt]
  rcases hout : outcome x s with ⟨e | a, s'⟩
  · simp only [hout] at h
    exact ⟨h.1, hfailure e s' h.2⟩
  · simp only [hout] at h
    exact h

end Satisfies

section Rows

variable [Lookup ε] {sandbox : Sandbox σ ε}

/-- Computes the output columns of a row, and gives the context after the last of them with
the cells. -/
def evaluateOutputs (sandbox : Sandbox σ ε) (ctx : Context) :
    List OutputRule → Evaluation σ ε (Context × List Text)
  | [] => return (ctx, [])
  | rule :: rest => do
    let resolved ← rule.output.resolve sandbox ctx
    let (last, cells) ←
      evaluateOutputs sandbox (ctx.withOutput rule.header resolved.evaluated) rest
    return (last, resolved.literal.display :: cells)

/-- Computing outputs changes nothing of a context but the outputs. -/
theorem satisfies_evaluateOutputs_context (ctx : Context) (outputs : List OutputRule) :
    Satisfies (fun _ => True)
      (fun result : Context × List Text => result.1 = { ctx with outputs := result.1.outputs })
      (fun _ _ => True) (evaluateOutputs sandbox ctx outputs) := by
  induction outputs generalizing ctx with
  | nil => exact .pure rfl
  | cons rule rest ih =>
    refine (Satisfies.trivial _).bind fun resolved _ => ?_
    exact (ih _).bind fun result hresult => .pure hresult

/-- Computes the cells of a row; they are missing if a filter rejects it. -/
def evaluateRow (sandbox : Sandbox σ ε) (rules : RuleSet) (ctx : Context) :
    Evaluation σ ε (Option (List Text)) := do
  let (last, cells) ← evaluateOutputs sandbox ctx rules.outputs
  let passed ← passesAll sandbox last rules.filters
  return if passed then some cells else none

/-- One output column after another: the next one begins where the one before ends. -/
theorem run_computeOutputs_cons (ctx : Context) (rule : OutputRule) (rest : List OutputRule)
    (s : σ) : (computeOutputs sandbox ctx (rule :: rest)).run s =
      match outcome (rule.output.resolve sandbox ctx) s with
      | (.error e, s') => ((ctx, .error e), s')
      | (.ok resolved, s') =>
        let next := ctx.withOutput rule.header resolved.evaluated
        let r := (computeOutputs sandbox next rest).run s'
        ((r.1.1, r.1.2.map (resolved.literal.display :: ·)), r.2) := by
  rw [computeOutputs, StateT.run_bind]
  unfold outcome
  rcases (rule.output.resolve sandbox ctx).run.run s with ⟨_ | _, s'⟩ <;> rfl

/-- Computing the outputs gives the same cells or error as the evaluation, and after success
the same context. -/
theorem run_computeOutputs {ctx : Context} {outputs : List OutputRule} {s s' : σ}
    {r : Except (EvaluationError ε) (Context × List Text)}
    (h : outcome (evaluateOutputs sandbox ctx outputs) s = (r, s')) :
    ∃ last, (computeOutputs sandbox ctx outputs).run s = ((last, r.map Prod.snd), s') ∧
      ∀ result, r = .ok result → result.1 = last := by
  -- Each output begins in the context and the state that the one before leaves.
  induction outputs generalizing ctx s s' r with
  | nil =>
    obtain ⟨rfl, rfl⟩ := Prod.mk.inj h
    exact ⟨ctx, rfl, fun result hresult => by rw [← Except.ok.inj hresult]⟩
  | cons rule rest ih =>
    rw [evaluateOutputs, outcome_bind] at h
    rw [run_computeOutputs_cons]
    rcases hrule : outcome (rule.output.resolve sandbox ctx) s with ⟨e | resolved, t⟩
    · rw [hrule] at h
      obtain ⟨rfl, rfl⟩ := Prod.mk.inj h
      exact ⟨ctx, rfl, fun result hresult => by simp at hresult⟩
    · simp only [hrule, outcome_bind] at h
      rcases hrest : outcome (evaluateOutputs sandbox
        (ctx.withOutput rule.header resolved.evaluated) rest) t with ⟨e | result, t'⟩
      all_goals
        obtain ⟨last, hrun, hlast⟩ := ih hrest
        rw [hrest] at h
        obtain ⟨rfl, rfl⟩ := Prod.mk.inj h
        simp only [hrun]
      · exact ⟨last, rfl, fun result hresult => by simp at hresult⟩
      · exact ⟨last, rfl, fun _ hresult => by rw [← Except.ok.inj hresult]; exact hlast result rfl⟩

/-- A row is processed in two steps: its outputs, and if they are computed its filters. -/
theorem run_processRow_eq (rules : RuleSet) (ctx : Context) (s : σ) :
    (processRow sandbox rules ctx).run s =
      match (computeOutputs sandbox ctx rules.outputs).run s with
      | ((last, .error e), s') => (⟨last.outputs, .error e⟩, s')
      | ((last, .ok cells), s') =>
        let r := outcome (passesAll sandbox last rules.filters) s'
        (⟨last.outputs, r.1.map fun passed => if passed then some cells else none⟩, r.2) := by
  rw [processRow, StateT.run_bind]
  rcases (computeOutputs sandbox ctx rules.outputs).run s with ⟨⟨last, _ | _⟩, s'⟩ <;> rfl

/-- Processing a row gives the cells or the error of its evaluation. -/
theorem run_processRow (rules : RuleSet) (ctx : Context) (s : σ) :
    ∃ outputs, (processRow sandbox rules ctx).run s =
      (⟨outputs, (outcome (evaluateRow sandbox rules ctx) s).1⟩,
        (outcome (evaluateRow sandbox rules ctx) s).2) := by
  rcases hout : outcome (evaluateOutputs sandbox ctx rules.outputs) s with ⟨r, s'⟩
  obtain ⟨last, hrun, hlast⟩ := run_computeOutputs hout
  refine ⟨last.outputs, ?_⟩
  rw [run_processRow_eq, hrun, evaluateRow, outcome_bind, hout]
  rcases r with e | ⟨_, cells⟩
  · rfl
  · obtain rfl := hlast _ rfl
    simp only [outcome_bind, Except.map]
    rcases outcome (passesAll sandbox _ rules.filters) s' with ⟨_ | _, _⟩ <;> rfl

/-- Rows are processed one after the other, each by its evaluation. -/
theorem processRows_cons (source : Source) (rules : RuleSet) (kept : Nat) (row : List Text)
    (rest : List (List Text)) :
    processRows sandbox source rules kept (row :: rest) = (do
      match ← evaluateRow sandbox rules (rowContext source rules row (firstDataRow + kept)) with
      | some cells => return cells :: (← processRows sandbox source rules (kept + 1) rest)
      | none => processRows sandbox source rules kept rest) := by
  refine ext_outcome fun s => ?_
  let ctx := rowContext source rules row (firstDataRow + kept)
  obtain ⟨outputs, hrun⟩ : ∃ outputs, (processRow sandbox rules ctx).run s = _ :=
    run_processRow rules ctx s
  have hlift : outcome (liftM (processRow sandbox rules ctx) : Evaluation σ ε _) s =
      (.ok ((processRow sandbox rules ctx).run s).1, ((processRow sandbox rules ctx).run s).2) :=
    rfl
  rw [processRows, outcome_bind, outcome_bind, hlift, hrun]
  simp only [outcome_bind, outcome_mk_pure]
  rcases outcome (evaluateRow sandbox rules ctx) s with ⟨_ | _ | _, s'⟩ <;> rfl

/-- A mapping that can be loaded is run. -/
theorem transform_of_load {source : Source} {mapping : List (Text × Text)} {rules : RuleSet}
    (h : RuleSet.load source.headers mapping = .ok rules) :
    transform sandbox source mapping =
      ExceptT.adapt TransformError.evaluation (rules.run sandbox source) := by
  rw [transform, h]

end Rows

end Rowscript
