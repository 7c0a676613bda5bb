import Mathlib.Data.List.Infix
import Rowscript.Proofs.Balance

/-!
# The language of balanced brackets

The check of brackets goes through a text once and keeps the number of brackets that are open.
This file compares it with two descriptions that keep no number: the grammar of texts in which
every bracket has its partner, and the counts of both brackets in the beginnings of a text. Both
are proved for every number of open brackets, because that is what the check has in the middle of
a text.
-/

namespace Rowscript.Text

/-- The texts that the grammar of balanced brackets generates. -/
inductive Balanced : Text → Prop where
  | empty : Balanced []
  | plain {c : Char} {t : Text} (hopen : c ≠ '[') (hclose : c ≠ ']') (ht : Balanced t) :
      Balanced (c :: t)
  | bracketed {s t : Text} (hs : Balanced s) (ht : Balanced t) :
      Balanced ('[' :: (s ++ ']' :: t))

/-- The texts that close a number of open brackets: balanced texts, with a closing bracket between
each and the next. -/
inductive Closing : Nat → Text → Prop where
  | last {t : Text} (ht : Balanced t) : Closing 0 t
  | close {depth : Nat} {s t : Text} (hs : Balanced s) (ht : Closing depth t) :
      Closing (depth + 1) (s ++ ']' :: t)

section Grammar

variable {depth : Nat} {t : Text}

/-- A character that is no bracket may stand before a text that closes brackets. -/
theorem Closing.plain {c : Char} (hopen : c ≠ '[') (hclose : c ≠ ']') (h : Closing depth t) :
    Closing depth (c :: t) := by
  cases h with
  | last ht => exact .last (.plain hopen hclose ht)
  | close hs ht => exact .close (.plain hopen hclose hs) ht

/-- An opening bracket before a text takes the first of the closing brackets as its partner. -/
theorem Closing.opened (h : Closing (depth + 1) t) : Closing depth ('[' :: t) := by
  cases h with
  | close hs ht =>
    cases ht with
    | last ht => exact .last (.bracketed hs ht)
    | @close depth' s' t' hs' ht' =>
      have h := Closing.close (.bracketed hs hs') ht'
      simpa using h

/-- The check accepts only texts that close the open brackets. -/
theorem closing_of_closesBrackets (h : closesBrackets depth t = true) : Closing depth t := by
  fun_induction closesBrackets depth t with
  | case1 depth =>
    obtain rfl : depth = 0 := of_decide_eq_true h
    exact .last .empty
  | case2 depth rest ih => exact (ih h).opened
  | case3 rest hopen => exact absurd h (by decide)
  | case4 rest depth hopen ih => exact .close .empty (ih h)
  | case5 depth c rest hopen hclose ih => exact (ih h).plain hopen hclose

/-- The check accepts every balanced text. -/
theorem Balanced.closesBrackets_eq (h : Balanced t) : closesBrackets 0 t = true := by
  induction h with
  | empty => rfl
  | plain hopen hclose _ ih => rw [closesBrackets_cons hopen hclose, ih]
  | @bracketed s t _ _ ihs iht =>
    have hinner := closesBrackets_add_append ihs 1 (']' :: t)
    rw [closesBrackets_open, hinner, closesBrackets_close, iht]

/-- The check accepts every text that closes the open brackets. -/
theorem Closing.closesBrackets_eq (h : Closing depth t) : closesBrackets depth t = true := by
  induction h with
  | last ht => exact ht.closesBrackets_eq
  | @close depth s t hs _ ih =>
    have hinner := closesBrackets_add_append hs.closesBrackets_eq (depth + 1) (']' :: t)
    rw [Nat.zero_add] at hinner
    rw [hinner, closesBrackets_close, ih]

/-- The check accepts exactly the texts that close the open brackets. -/
theorem closesBrackets_iff_closing : closesBrackets depth t = true ↔ Closing depth t :=
  ⟨closing_of_closesBrackets, Closing.closesBrackets_eq⟩

/-- Without open brackets, what closes them all is balanced. -/
theorem closing_zero_iff : Closing 0 t ↔ Balanced t := by
  constructor
  · intro h
    cases h with
    | last ht => exact ht
  · exact .last

end Grammar

/-- No beginning of a text has closed more brackets than were open, and the whole text has closed
all of them. -/
structure ClosesByCount (depth : Nat) (t : Text) : Prop where
  beginnings : ∀ p, p <+: t → p.count ']' ≤ depth + p.count '['
  total : t.count ']' = depth + t.count '['

section Counts

variable {depth : Nat} {t : Text}

/-- Behind its first character a text has to close as many brackets as are open there. -/
theorem closesByCount_cons_iff {c : Char} {after : Nat}
    (hafter : depth + [c].count '[' = after + [c].count ']') :
    ClosesByCount depth (c :: t) ↔ ClosesByCount after t := by
  have hcount : ∀ (bracket : Char) (p : Text),
      (c :: p).count bracket = [c].count bracket + p.count bracket := by
    intro bracket p
    rw [← List.singleton_append, List.count_append]
  constructor
  · rintro ⟨hbeginnings, htotal⟩
    constructor
    · intro p hp
      have hp' := hbeginnings (c :: p) (List.cons_prefix_cons.mpr ⟨rfl, hp⟩)
      rw [hcount '[' p, hcount ']' p] at hp'
      omega
    · rw [hcount '[' t, hcount ']' t] at htotal
      omega
  · rintro ⟨hbeginnings, htotal⟩
    constructor
    · intro p hp
      rcases List.prefix_cons_iff.mp hp with rfl | ⟨q, rfl, hq⟩
      · simp
      · have hq' := hbeginnings q hq
        rw [hcount '[' q, hcount ']' q]
        omega
    · rw [hcount '[' t, hcount ']' t]
      omega

/-- A closing bracket without an open one is one too many. -/
theorem not_closesByCount_close (t : Text) : ¬ ClosesByCount 0 (']' :: t) := by
  intro h
  have hfirst := h.beginnings [']'] (List.cons_prefix_cons.mpr ⟨rfl, List.nil_prefix⟩)
  simp at hfirst

/-- The check accepts exactly the texts whose counts of brackets are right. -/
theorem closesBrackets_iff_closesByCount :
    closesBrackets depth t = true ↔ ClosesByCount depth t := by
  fun_induction closesBrackets depth t with
  | case1 depth =>
    constructor
    · intro h
      obtain rfl : depth = 0 := of_decide_eq_true h
      exact ⟨by simp, rfl⟩
    · intro h
      have htotal := h.total
      simp at htotal
      simp [htotal]
  | case2 depth rest ih => exact ih.trans (closesByCount_cons_iff (by simp)).symm
  | case3 rest hopen => exact iff_of_false (by decide) (not_closesByCount_close rest)
  | case4 rest depth hopen ih => exact ih.trans (closesByCount_cons_iff (by simp)).symm
  | case5 depth c rest hopen hclose ih =>
    have hnone : [c].count '[' = 0 ∧ [c].count ']' = 0 := by simp [hopen, hclose]
    exact ih.trans (closesByCount_cons_iff (by rw [hnone.1, hnone.2])).symm

end Counts

/-- The brackets of a text pass the check exactly when the grammar generates the text, and exactly
when no beginning of it has more closing than opening brackets and the whole text has as many of
the one as of the other. -/
theorem bracketsBalanced_iff_generated (t : Text) :
    (bracketsBalanced t = true ↔ Balanced t) ∧
      (bracketsBalanced t = true ↔
        (∀ p, p <+: t → p.count ']' ≤ p.count '[') ∧ t.count ']' = t.count '[') := by
  constructor
  · rw [bracketsBalanced, closesBrackets_iff_closing, closing_zero_iff]
  · rw [bracketsBalanced, closesBrackets_iff_closesByCount]
    constructor
    · rintro ⟨hbeginnings, htotal⟩
      rw [Nat.zero_add] at htotal
      exact ⟨fun p hp => (hbeginnings p hp).trans_eq (Nat.zero_add _), htotal⟩
    · rintro ⟨hbeginnings, htotal⟩
      refine ⟨fun p hp => ?_, ?_⟩
      · rw [Nat.zero_add]
        exact hbeginnings p hp
      · rw [Nat.zero_add, htotal]

end Rowscript.Text
