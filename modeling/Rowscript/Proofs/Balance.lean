import Rowscript.Proofs.Trimming
import Rowscript.Rule.Brackets

/-!
# Brackets and what surrounds them

Text without brackets makes no difference to whether brackets are balanced, before them or
behind them. So neither blanks around an instruction nor a marker at its beginning matter. A
text with balanced brackets makes no difference either: it closes what it opens.
-/

namespace Rowscript.Text

/-- A character that is no bracket leaves the depth. -/
theorem closesBrackets_cons {c : Char} (hopen : c ≠ '[') (hclose : c ≠ ']') (depth : Nat)
    (t : Text) : closesBrackets depth (c :: t) = closesBrackets depth t := by
  rw [closesBrackets.eq_def]
  simp only [if_neg hopen, if_neg hclose]

/-- An opening bracket opens one more. -/
theorem closesBrackets_open (depth : Nat) (t : Text) :
    closesBrackets depth ('[' :: t) = closesBrackets (depth + 1) t := by
  rw [closesBrackets.eq_def]
  rfl

/-- A closing bracket closes the last one that is open. -/
theorem closesBrackets_close (depth : Nat) (t : Text) :
    closesBrackets (depth + 1) (']' :: t) = closesBrackets depth t := by
  rw [closesBrackets.eq_def]
  rfl

/-- Text without brackets makes no difference before a text. -/
theorem closesBrackets_append {s : Text} (hs : ∀ c ∈ s, c ≠ '[' ∧ c ≠ ']') (depth : Nat)
    (t : Text) : closesBrackets depth (s ++ t) = closesBrackets depth t := by
  induction s with
  | nil => rfl
  | cons c s ih =>
    obtain ⟨hopen, hclose⟩ := hs c List.mem_cons_self
    rw [List.cons_append, closesBrackets_cons hopen hclose]
    exact ih fun d hd => hs d (List.mem_cons_of_mem c hd)

/-- Text without brackets makes no difference behind a text. -/
theorem closesBrackets_append_right {s : Text} (hs : ∀ c ∈ s, c ≠ '[' ∧ c ≠ ']') (depth : Nat)
    (t : Text) : closesBrackets depth (t ++ s) = closesBrackets depth t := by
  fun_induction closesBrackets depth t with
  | case1 depth =>
    rw [List.nil_append, ← List.append_nil s, closesBrackets_append hs, closesBrackets]
  | case2 depth rest ih => exact ih
  | case3 rest hopen => rfl
  | case4 rest depth hopen ih => exact ih
  | case5 depth c rest hopen hclose ih =>
    rw [List.cons_append, closesBrackets_cons hopen hclose, ih]

/-- Text that closes the open brackets and its own leaves the brackets around it open. -/
theorem closesBrackets_add_append {depth : Nat} {s : Text} (hs : closesBrackets depth s = true)
    (outer : Nat) (t : Text) :
    closesBrackets (depth + outer) (s ++ t) = closesBrackets outer t := by
  fun_induction closesBrackets depth s with
  | case1 depth =>
    have hdepth : depth = 0 := of_decide_eq_true hs
    rw [hdepth, Nat.zero_add, List.nil_append]
  | case2 depth rest ih =>
    rw [List.cons_append, closesBrackets_open, Nat.add_right_comm]
    exact ih hs
  | case3 rest hopen => exact absurd hs (by decide)
  | case4 rest depth hopen ih =>
    rw [List.cons_append, Nat.succ_add, closesBrackets_close]
    exact ih hs
  | case5 depth c rest hopen hclose ih =>
    rw [List.cons_append, closesBrackets_cons hopen hclose]
    exact ih hs

/-- Texts with balanced brackets are balanced one after the other. -/
theorem bracketsBalanced_append {s t : Text} (hs : bracketsBalanced s = true)
    (ht : bracketsBalanced t = true) : bracketsBalanced (s ++ t) = true := by
  have hrest := closesBrackets_add_append hs 0 t
  rw [Nat.zero_add] at hrest
  rw [bracketsBalanced, hrest]
  exact ht

/-- Texts with balanced brackets are balanced with a space between them. -/
theorem bracketsBalanced_append_space {s t : Text} (hs : bracketsBalanced s = true)
    (ht : bracketsBalanced t = true) : bracketsBalanced (s ++ ' ' :: t) = true := by
  refine bracketsBalanced_append hs ?_
  rw [bracketsBalanced, closesBrackets_cons (by decide) (by decide)]
  exact ht

/-- Text without brackets has balanced ones. -/
theorem bracketsBalanced_of_no_bracket {t : Text} (h : ∀ c ∈ t, c ≠ '[' ∧ c ≠ ']') :
    bracketsBalanced t = true := by
  have hrest := closesBrackets_append h 0 []
  rw [List.append_nil] at hrest
  rw [bracketsBalanced, hrest]
  rfl

/-- An open bracket has to be closed. -/
theorem close_mem_of_closesBrackets {depth : Nat} {t : Text}
    (h : closesBrackets (depth + 1) t = true) : ']' ∈ t := by
  induction t generalizing depth with
  | nil => exact absurd h (by simp [closesBrackets])
  | cons c rest ih =>
    by_cases hclose : c = ']'
    · exact hclose ▸ List.mem_cons_self
    by_cases hopen : c = '['
    · rw [hopen, closesBrackets_open] at h
      exact List.mem_cons_of_mem c (ih h)
    · rw [closesBrackets_cons hopen hclose] at h
      exact List.mem_cons_of_mem c (ih h)

/-- Behind an opening bracket of a text that closes all brackets there is a closing one. -/
theorem close_mem_of_closesBrackets_append {depth : Nat} {before after : Text}
    (h : closesBrackets depth (before ++ '[' :: after) = true) : ']' ∈ after := by
  induction before generalizing depth with
  | nil =>
    rw [List.nil_append, closesBrackets_open] at h
    exact close_mem_of_closesBrackets h
  | cons c before ih =>
    rw [List.cons_append] at h
    by_cases hopen : c = '['
    · rw [hopen, closesBrackets_open] at h
      exact ih h
    by_cases hclose : c = ']'
    · cases depth with
      | zero => exact absurd h (by simp [hclose, closesBrackets.eq_def])
      | succ depth =>
        rw [hclose, closesBrackets_close] at h
        exact ih h
    · rw [closesBrackets_cons hopen hclose] at h
      exact ih h

/-- A blank is no bracket. -/
theorem ne_bracket_of_isBlank {c : Char} (hc : isBlank c = true) : c ≠ '[' ∧ c ≠ ']' := by
  constructor
  · rintro rfl
    exact absurd hc (by decide)
  · rintro rfl
    exact absurd hc (by decide)

/-- Blanks around a text make no difference to its brackets. -/
theorem bracketsBalanced_trim (t : Text) : bracketsBalanced (trim t) = bracketsBalanced t := by
  obtain ⟨before, after, hbefore, hafter, hsplit⟩ := exists_append_trim_append t
  calc bracketsBalanced (trim t) = closesBrackets 0 (trim t ++ after) :=
        (closesBrackets_append_right (fun c hc => ne_bracket_of_isBlank (hafter c hc)) 0 _).symm
    _ = closesBrackets 0 (before ++ (trim t ++ after)) :=
        (closesBrackets_append (fun c hc => ne_bracket_of_isBlank (hbefore c hc)) 0 _).symm
    _ = bracketsBalanced t := congrArg bracketsBalanced hsplit.symm

end Rowscript.Text
