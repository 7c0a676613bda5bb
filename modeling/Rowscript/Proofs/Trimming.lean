import Mathlib.Data.List.DropRight
import Mathlib.Tactic.Conv
import Rowscript.Text.Basic

/-!
# Trimming

Trimming cuts blanks off the ends of a text, so what is left is a part of it that begins
and ends with other characters, and trimming it again changes nothing.
-/

namespace Rowscript.Text

/-- What is said of all characters of a text is decided by going through the text, and not
through all characters that there are. -/
instance (priority := high) decidableForallMem (t : Text) (p : Char → Prop) [DecidablePred p] :
    Decidable (∀ c ∈ t, p c) :=
  List.decidableBAll p t

/-- A character that has not a property of all characters of a text is none of them. -/
theorem not_mem_of_forall {p : Char → Bool} {c : Char} {t : Text} (hc : p c = false)
    (h : ∀ d ∈ t, p d = true) : c ∉ t := by
  intro hmem
  rw [h c hmem] at hc
  exact absurd hc (by decide)

/-- Trimming on the left leaves an end of the text. -/
theorem trimLeft_isSuffix (t : Text) : trimLeft t <:+ t := List.dropWhile_suffix isBlank

/-- Trimming on the right is the library's dropping from the right. -/
theorem trimRight_eq_rdropWhile (t : Text) : trimRight t = t.rdropWhile isBlank := rfl

/-- Trimming on the right cuts off blanks only. -/
theorem exists_trimRight_append (t : Text) :
    ∃ blanks : Text, (∀ c ∈ blanks, isBlank c = true) ∧ t = trimRight t ++ blanks :=
  ⟨t.rtakeWhile isBlank, fun _ => List.mem_rtakeWhile_imp,
    (List.rdropWhile_append_rtakeWhile).symm⟩

/-- Trimming on the right leaves a beginning of the text. -/
theorem trimRight_isPrefix (t : Text) : trimRight t <+: t := List.rdropWhile_prefix isBlank t

/-- Trimming cuts off blanks only. -/
theorem exists_append_trim_append (t : Text) :
    ∃ before after : Text, (∀ c ∈ before, isBlank c = true) ∧ (∀ c ∈ after, isBlank c = true) ∧
      t = before ++ (trim t ++ after) := by
  obtain ⟨after, hafter, hright⟩ := exists_trimRight_append (trimLeft t)
  refine ⟨t.takeWhile isBlank, after, fun c hc => List.mem_takeWhile_imp hc, hafter, ?_⟩
  calc t = t.takeWhile isBlank ++ trimLeft t := List.takeWhile_append_dropWhile.symm
    _ = t.takeWhile isBlank ++ (trim t ++ after) := congrArg (t.takeWhile isBlank ++ ·) hright

/-- Trimming leaves a part of the text. -/
theorem trim_isInfix (t : Text) : trim t <:+: t :=
  (trimRight_isPrefix (trimLeft t)).isInfix.trans (trimLeft_isSuffix t).isInfix

/-- A text whose first character is no blank keeps its beginning. -/
theorem trimLeft_cons {c : Char} (hc : isBlank c = false) (t : Text) :
    trimLeft (c :: t) = c :: t := by
  simp [trimLeft, hc]

/-- A text is trimmed to nothing when it holds blanks only. -/
theorem trimRight_eq_nil_iff {t : Text} : trimRight t = [] ↔ ∀ c ∈ t, isBlank c = true :=
  List.rdropWhile_eq_nil_iff

/-- Trimming on the right reaches the first part of a text only through a blank rest. -/
theorem trimRight_append (s t : Text) :
    trimRight (s ++ t) = if trimRight t = [] then trimRight s else s ++ trimRight t := by
  unfold trimRight
  rw [List.reverse_append, List.dropWhile_append]
  simp only [List.isEmpty_iff, List.reverse_eq_nil_iff]
  split <;> simp

/-- A text that does not begin with a blank keeps its first character. -/
theorem exists_trim_cons {c : Char} (hc : isBlank c = false) (rest : Text) :
    ∃ tail, trim (c :: rest) = c :: tail := by
  have hone : trimRight [c] = [c] := by simp [trimRight, hc]
  rw [trim, trimLeft_cons hc, ← List.singleton_append, trimRight_append]
  split
  · exact ⟨[], hone⟩
  · exact ⟨trimRight rest, rfl⟩

/-- A text that is trimmed on the right does not end with a text of blanks. -/
theorem eq_nil_of_trimRight_append {s t : Text} (htrimmed : trimRight (s ++ t) = s ++ t)
    (hblank : ∀ c ∈ t, isBlank c = true) : t = [] := by
  rw [trimRight_append, if_pos (trimRight_eq_nil_iff.mpr hblank)] at htrimmed
  have hlength := congrArg List.length htrimmed
  have hle := (trimRight_isPrefix s).length_le
  rw [List.length_append] at hlength
  exact List.length_eq_zero_iff.mp (by omega)

/-- A trimmed text does not begin with a blank. -/
theorem isBlank_eq_false_of_trim {t rest : Text} {c : Char} (h : trim t = c :: rest) :
    isBlank c = false := by
  obtain ⟨blanks, hsplit⟩ := trimRight_isPrefix (trimLeft t)
  have hhead := List.head?_dropWhile_not isBlank t
  change trimRight (trimLeft t) = c :: rest at h
  rw [h] at hsplit
  unfold trimLeft at hsplit
  simpa [← hsplit] using hhead

/-- A trimmed text is trimmed on the left. -/
@[simp] theorem trimLeft_trim (t : Text) : trimLeft (trim t) = trim t := by
  cases h : trim t with
  | nil => rfl
  | cons c rest => exact trimLeft_cons (isBlank_eq_false_of_trim h) rest

/-- A trimmed text is trimmed on the right. -/
@[simp] theorem trimRight_trim (t : Text) : trimRight (trim t) = trim t :=
  List.rdropWhile_idempotent isBlank (trimLeft t)

/-- Trimming again changes nothing. -/
@[simp] theorem trim_trim (t : Text) : trim (trim t) = trim t := by
  conv_lhs => rw [trim, trimLeft_trim, trimRight_trim]

/-- Blanks at the end make no difference to the trimmed text. -/
theorem trim_trimRight (t : Text) : trim (trimRight t) = trim t := by
  obtain ⟨blanks, hblank, hsplit⟩ := exists_trimRight_append t
  have hnone : trimRight blanks = [] := trimRight_eq_nil_iff.mpr hblank
  have hdrop : blanks.dropWhile isBlank = [] := List.dropWhile_eq_nil_iff.mpr hblank
  conv_rhs => rw [hsplit, trim, trimLeft, List.dropWhile_append]
  split
  · next h => rw [List.isEmpty_iff] at h; rw [hdrop, trim, trimLeft, h]
  · rw [trimRight_append, if_pos hnone]; rfl

/-- Blanks at the end of a text are trimmed off. -/
theorem trim_append_blanks {blanks : Text} (h : ∀ c ∈ blanks, isBlank c = true) (t : Text) :
    trim (t ++ blanks) = trim t := by
  have hright : trimRight (t ++ blanks) = trimRight t := by
    rw [trimRight_append, if_pos (trimRight_eq_nil_iff.mpr h)]
  rw [← trim_trimRight, hright, trim_trimRight]

/-- Blanks at the beginning of a text are trimmed off. -/
theorem trim_blanks_append {blanks : Text} (h : ∀ c ∈ blanks, isBlank c = true) (t : Text) :
    trim (blanks ++ t) = trim t := by
  rw [trim, trim, trimLeft, trimLeft, List.dropWhile_append_of_pos h]

/-- A text that neither begins nor ends with a blank is not changed by trimming it. -/
theorem trim_eq_self_of_ends {t : Text} (hfirst : ∀ c ∈ t.head?, isBlank c = false)
    (hlast : ∀ c ∈ t.getLast?, isBlank c = false) : trim t = t := by
  have hleft : trimLeft t = t := by
    cases t with
    | nil => rfl
    | cons c rest => exact trimLeft_cons (hfirst c rfl) rest
  have hright : trimRight t = t := by
    rw [trimRight_eq_rdropWhile, List.rdropWhile_eq_self_iff]
    intro hne
    rw [hlast _ (List.getLast?_eq_some_getLast hne)]
    decide
  rw [trim, hleft, hright]

/-- A trimmed text does not end with a blank. -/
theorem isBlank_eq_false_of_getLast? {t : Text} {c : Char} (h : trim t = t)
    (hc : t.getLast? = some c) : isBlank c = false := by
  have hright : trimRight t = t := by
    conv_lhs => rw [← h]
    rw [trimRight_trim, h]
  rw [trimRight_eq_rdropWhile, List.rdropWhile_eq_self_iff] at hright
  obtain ⟨hne, rfl⟩ := List.mem_getLast?_eq_getLast hc
  simpa using hright hne

/-- Whatever stands between two trimmed texts, they need not be trimmed together. -/
theorem trim_append_append {s t : Text} (hs : trim s = s) (ht : trim t = t) (hsome : s ≠ [])
    (hmore : t ≠ []) (between : Text) : trim (s ++ between ++ t) = s ++ between ++ t := by
  apply trim_eq_self_of_ends
  · intro c hc
    rw [List.append_assoc, List.head?_append_of_ne_nil _ hsome] at hc
    obtain ⟨rest, rfl⟩ := List.head?_eq_some_iff.mp hc
    exact isBlank_eq_false_of_trim hs
  · intro c hc
    rw [List.getLast?_append_of_ne_nil _ hmore] at hc
    exact isBlank_eq_false_of_getLast? ht hc

end Rowscript.Text
