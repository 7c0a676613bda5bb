import Rowscript.Proofs.ConditionCuts
import Rowscript.Proofs.TokenPlaces
import Rowscript.Proofs.WrittenFilters

/-!
# Alternatives of a filter

The text of a filter is split at its marks between alternatives before any token is read, and the
reading of tokens knows such a mark too. Both see the same marks, from left to right, except
those inside a string or a column name: there the tokens go on, and the text is split.
-/

namespace Rowscript

section Splitting

variable {α : Type*} {p : α → Bool}

/-- Where a list is split, everything up to the first place of a split is in the first part. -/
theorem mem_of_splitOnP_eq_cons {front back first : List α} {parts : List (List α)} {x : α}
    (h : (front ++ x :: back).splitOnP p = first :: parts) (hfront : ∀ y ∈ front, p y = false)
    (hx : p x = false) : x ∈ first := by
  induction front generalizing first parts with
  | nil =>
    obtain ⟨part, more, hback⟩ := List.exists_cons_of_ne_nil (List.splitOnP_ne_nil p back)
    rw [List.nil_append, List.splitOnP_cons_eq_if_modifyHead, if_neg (by simp [hx]), hback,
      List.modifyHead_cons] at h
    obtain ⟨rfl, -⟩ := List.cons.inj h
    exact List.mem_cons_self
  | cons y front ih =>
    obtain ⟨part, more, hrest⟩ :=
      List.exists_cons_of_ne_nil (List.splitOnP_ne_nil p (front ++ x :: back))
    rw [List.cons_append, List.splitOnP_cons_eq_if_modifyHead,
      if_neg (by simp [hfront y List.mem_cons_self]), hrest, List.modifyHead_cons] at h
    obtain ⟨rfl, -⟩ := List.cons.inj h
    exact List.mem_cons_of_mem _ (ih hrest fun y hy => hfront y (List.mem_cons_of_mem _ hy))

end Splitting

/-- A part of a text without marks between alternatives has none. -/
theorem Text.Undivided.of_isInfix {s t : Text} (h : t.Undivided) (hpart : s <:+: t) :
    s.Undivided :=
  fun hmark => h (hmark.trans hpart)

/-- A text that has a mark between alternatives has a first one. -/
theorem Text.exists_first_mark {t : Text} (h : ¬ t.Undivided) :
    ∃ front rest, t = front ++ '|' :: '|' :: rest ∧ Text.Undivided (front ++ ['|']) := by
  induction t with
  | nil => simp [Undivided] at h
  | cons c t ih =>
    by_cases hstart : "||".toList <+: c :: t
    · obtain ⟨rest, hrest⟩ := hstart
      exact ⟨[], rest, hrest.symm, by decide⟩
    · have htail : ¬ Undivided t := fun hundivided => h fun hmark =>
        (List.infix_cons_iff.mp hmark).elim hstart hundivided
      obtain ⟨front, rest, rfl, hfront⟩ := ih htail
      refine ⟨c :: front, rest, rfl, fun hmark => ?_⟩
      rcases List.infix_cons_iff.mp hmark with hfirst | hlater
      · exact hstart (hfirst.trans ⟨'|' :: rest, by simp⟩)
      · exact hfront hlater

/-- What holds of a text without marks between alternatives, and of a text whose first mark is
known if it holds of what is behind the mark, holds of every text. -/
@[elab_as_elim]
theorem Text.induction_on_marks {P : Text → Prop} (t : Text)
    (whole : ∀ t : Text, t.Undivided → P t)
    (mark : ∀ front rest : Text, Undivided (front ++ ['|']) → P rest →
      P (front ++ '|' :: '|' :: rest)) : P t := by
  induction hlength : t.length using Nat.strong_induction_on generalizing t with
  | _ n ih =>
    subst hlength
    by_cases h : t.Undivided
    · exact whole t h
    · obtain ⟨front, rest, rfl, hfront⟩ := exists_first_mark h
      refine mark front rest hfront (ih rest.length ?_ rest rfl)
      simp only [List.length_append, List.length_cons]
      omega

/-- The first mark between alternatives ends the first piece. -/
theorem splitAlternatives_append {front : Text} (h : Text.Undivided (front ++ ['|']))
    (rest : Text) :
    splitAlternatives (front ++ '|' :: '|' :: rest) = front :: splitAlternatives rest := by
  induction front with
  | nil => rfl
  | cons c front ih =>
    refine splitAlternatives_cons (fun hmark => h ?_) (ih h.tail)
    have hsplit : c :: (front ++ '|' :: '|' :: rest) = (c :: front ++ ['|']) ++ '|' :: rest := by
      simp
    exact (Text.isPrefix_of_append (hsplit ▸ hmark) (by simp)).isInfix

/-- No piece has a mark between alternatives. -/
theorem undivided_of_mem_splitAlternatives {t piece : Text} (h : piece ∈ splitAlternatives t) :
    piece.Undivided := by
  induction t using Text.induction_on_marks with
  | whole t ht =>
    rw [ht.splitAlternatives_eq, List.mem_singleton] at h
    exact h ▸ ht
  | mark front rest hfront ih =>
    rw [splitAlternatives_append hfront] at h
    rcases List.mem_cons.mp h with rfl | hpiece
    · exact hfront.of_isInfix (List.infix_append' [] piece ['|'])
    · exact ih hpiece

namespace Token

/-- The kinds of tokens that a mark between alternatives can divide. -/
def dividedKinds : List TokenKind := [.string, .sourceRef, .selfRef]

/-- Bars are written in strings, references, plain text and marks between alternatives only. -/
theorem Shape.kind_of_bar_mem {token : Token} (h : token.Shape) (hbar : '|' ∈ token.raw) :
    token = plain .or "||".toList ∨ token.kind = .text ∨ token.kind ∈ dividedKinds := by
  have hnumber := fun hkind => h.not_mem_of_number hkind (c := '|') (by decide) (by decide)
  cases h with
  | reference r _ => rcases kind_ofReference r with hr | hr <;> simp [hr, dividedKinds]
  | operator op => cases op <;> exact absurd hbar (by decide)
  | formula _ hbody =>
    rcases List.mem_cons.mp hbar with hequals | hbar
    · exact absurd hequals (by decide)
    · exact absurd hbar (Text.not_mem_of_forall (by decide) hbody)
  | whole | fraction => exact absurd hbar (hnumber rfl)
  | or => exact .inl rfl
  | _ => simp [plain, dividedKinds]

/-- Strings and references do not end with a bar. -/
theorem Shape.getLast?_ne_bar {token : Token} (h : token.Shape)
    (hkind : token.kind ∈ dividedKinds) : token.raw.getLast? ≠ some '|' := by
  cases h with
  | reference r _ => simp [Reference.render]
  | string _ => simp [List.getLast?_cons]
  | _ => simp [plain, dividedKinds] at hkind

/-- A mark between alternatives is one. -/
theorem Shape.not_undivided {token : Token} (h : token.Shape) (hkind : token.kind = .or) :
    ¬ Text.Undivided token.raw := by
  cases h with
  | reference r _ => rcases kind_ofReference r with hr | hr <;> simp [hr] at hkind
  | or => decide
  | _ => simp [plain] at hkind

/-- A mark between alternatives stands wherever it is written. -/
theorem standsAt_or (before : Option Char) (rest : Text) :
    StandsAt before ('|' :: '|' :: rest) (plain .or "||".toList) :=
  ⟨.or, by simp [plain], by simp [plain, TokenKind.beginsWord], rest, rfl⟩

end Token

/-- The first mark between alternatives of a text is one of its tokens, or it lies in a string or
a reference. -/
theorem exists_tokenAt_first_mark {front : Text} (hfront : Text.Undivided (front ++ ['|']))
    (rest : Text) :
    ∃ place token, TokenAt (front ++ '|' :: '|' :: rest) place token ∧ place ≤ front.length ∧
      (token = .plain .or "||".toList ∧ place = front.length ∨
        token.kind ∈ Token.dividedKinds ∧ ¬ Text.Undivided token.raw) := by
  have hbar : Text.isBlank '|' = false := by decide
  obtain ⟨place, token, htoken, hplace, hstop⟩ :=
    exists_tokenAt_of_isBlank_eq_false front ('|' :: rest) hbar
  refine ⟨place, token, htoken, hplace, ?_⟩
  obtain ⟨before, inner, tail, following, _, _, rfl, rfl, hraw, hright, -⟩ :=
    htoken.exists_first_of_le hplace hstop.le
  cases tail with
  | nil => simp [hraw] at hstop
  | cons d tail =>
    obtain ⟨rfl, hrest⟩ := List.cons.inj hright
    rcases htoken.shape.kind_of_bar_mem (by simp [hraw]) with rfl | htext | hdivided
    · refine .inl ⟨rfl, ?_⟩
      -- A mark that begins before the first one would end with the first bar of it.
      rcases inner with _ | ⟨c, _ | ⟨d, inner⟩⟩
      · simp
      · obtain rfl : '|' = c := (List.cons.inj hraw).1
        exact absurd ⟨before, [], by simp⟩ hfront
      · simpa [Token.plain] using congrArg List.length hraw
    · exact absurd (Token.standsAt_or _ rest)
        (htoken.not_standsAt_of_text htext hplace hstop hbar _)
    · refine .inr ⟨hdivided, fun hundivided => ?_⟩
      cases tail with
      | nil => exact htoken.shape.getLast?_ne_bar hdivided (by simp [hraw])
      | cons e tail =>
        obtain ⟨rfl, -⟩ := List.cons.inj hrest
        exact hundivided ⟨inner, tail, by simp [hraw]⟩

/-- Where the first mark between alternatives of a text stands, a mark is read between the tokens
of what is before it and those of what is behind it, or a string or a reference goes on. -/
theorem tokenize_first_mark {front : Text} (hfront : Text.Undivided (front ++ ['|']))
    (rest : Text) :
    tokenize (front ++ '|' :: '|' :: rest) =
      tokenize front ++ .plain .or "||".toList :: tokenize rest ∨
      ∃ before token after, tokenize (front ++ '|' :: '|' :: rest) = before ++ token :: after ∧
        token.kind ∈ Token.dividedKinds ∧ ¬ Text.Undivided token.raw ∧
          ∀ other ∈ before, Text.Undivided other.raw := by
  obtain ⟨place, token, ⟨ls, l, back, hsplit, rfl, rfl⟩, hplace, htoken⟩ :=
    exists_tokenAt_first_mark hfront rest
  obtain ⟨following, htext, hback, hcut⟩ := exists_wellCut_of_lexemes_eq hsplit
  rw [Lexeme.render, ← List.append_assoc, List.append_assoc] at htext
  obtain ⟨gap, rfl⟩ := List.prefix_of_prefix_length_le ⟨_, htext.symm⟩ ⟨_, rfl⟩ hplace
  rcases htoken with ⟨hor, hsame⟩ | ⟨hkind, hdivided⟩
  · left
    have hgap : gap = [] := by simpa using hsame
    rw [hgap, List.append_nil] at htext ⊢
    rw [hor, List.append_cancel_left_eq] at htext
    obtain rfl : rest = following := (List.cons.inj (List.cons.inj htext).2).2
    rw [hgap, List.append_nil] at hsplit
    rw [tokenize, hsplit, tokenize, tokenize, lexemes_of_append hsplit rfl hcut.blanks, hback,
      List.map_append, List.map_cons, hor]
  · refine .inr ⟨ls.map Lexeme.token, l.token, back.map Lexeme.token, ?_, hkind, hdivided, ?_⟩
    · rw [tokenize, hsplit, List.map_append, List.map_cons]
    · intro other hother
      obtain ⟨l', hl', rfl⟩ := List.mem_map.mp hother
      obtain ⟨before, after, rfl⟩ := List.append_of_mem hl'
      exact hfront.of_isInfix ⟨before.flatMap Lexeme.render ++ l'.blanks,
        after.flatMap Lexeme.render ++ l.blanks ++ gap ++ ['|'], by simp [Lexeme.render]⟩

/-- The tokens of a text without marks between alternatives hold none. -/
theorem Text.Undivided.of_mem_tokenize {t : Text} (h : t.Undivided) {token : Token}
    (htoken : token ∈ tokenize t) : Text.Undivided token.raw ∧ token.kind ≠ .or := by
  obtain ⟨l, hl, rfl⟩ := List.mem_map.mp htoken
  have hraw := h.of_isInfix (raw_infix_of_mem_lexemes hl)
  exact ⟨hraw, fun hkind => (shape_of_mem_lexemes hl).not_undivided hkind hraw⟩

/-- Splitting the tokens of a text at the marks between alternatives gives the tokens of its
pieces exactly if no string and no reference of the text holds a mark. -/
theorem splitOnP_tokenize_eq_iff (t : Text) :
    (tokenize t).splitOnP (fun token => token.kind = .or) = (splitAlternatives t).map tokenize ↔
      ∀ token ∈ tokenize t, token.kind ∈ Token.dividedKinds → Text.Undivided token.raw := by
  induction t using Text.induction_on_marks with
  | whole t ht =>
    rw [ht.splitAlternatives_eq, List.splitOnP_eq_singleton]
    · exact iff_of_true rfl fun token htoken _ => (ht.of_mem_tokenize htoken).1
    · exact fun token htoken => decide_eq_false (ht.of_mem_tokenize htoken).2
  | mark front rest hfront ih =>
    have hpiece : Text.Undivided front :=
      hfront.of_isInfix (List.prefix_append front ['|']).isInfix
    rw [splitAlternatives_append hfront, List.map_cons]
    rcases tokenize_first_mark hfront rest with hmark | ⟨before, token, after, hdivided, hkind,
      hraw, hbefore⟩
    · rw [hmark, List.splitOnP_append_cons_of_forall_mem _ _ rfl, List.cons_inj_right, ih]
      · constructor
        · intro h token htoken hkind
          rcases List.mem_append.mp htoken with hfirst | hlater
          · exact (hpiece.of_mem_tokenize hfirst).1
          rcases List.mem_cons.mp hlater with rfl | hlater
          · simp [Token.plain, Token.dividedKinds] at hkind
          · exact h token hlater hkind
        · exact fun h token htoken => h token (by simp [htoken])
      · exact fun token htoken => decide_eq_false (hpiece.of_mem_tokenize htoken).2
    · refine iff_of_false (fun hsplit => ?_) fun hall => ?_
      · rw [hdivided] at hsplit
        have hmem := mem_of_splitOnP_eq_cons hsplit ?_ ?_
        · exact hraw (hpiece.of_mem_tokenize hmem).1
        · intro other hother
          have hshape : other.Shape := by
            obtain ⟨l, hl, rfl⟩ := List.mem_map.mp (hdivided ▸ List.mem_append_left _ hother)
            exact shape_of_mem_lexemes hl
          exact decide_eq_false fun hor => hshape.not_undivided hor (hbefore other hother)
        · refine decide_eq_false fun hor => ?_
          simp [hor, Token.dividedKinds] at hkind
      · exact hraw (hall token (hdivided ▸ List.mem_append_cons_self) hkind)

/-- A token that a mark between alternatives divides is no token of any piece. -/
theorem not_mem_tokenize_piece {t piece : Text} (hpiece : piece ∈ splitAlternatives t)
    {token : Token} (hdivided : ¬ Text.Undivided token.raw) : token ∉ tokenize piece :=
  fun htoken => hdivided ((undivided_of_mem_splitAlternatives hpiece).of_mem_tokenize htoken).1

/-- A condition can be read exactly if its tokens are those of a comparison or of a formula. -/
theorem exists_readCondition_iff (t : Text) :
    (∃ condition, readCondition t = .ok condition) ↔
      Compares (tokenize t) ∨ HoldsFormula (tokenize t) := by
  constructor
  · rintro ⟨condition, hread⟩
    by_contra hneither
    obtain ⟨hcompares, hformula⟩ := not_or.mp hneither
    obtain ⟨cause, -, herror⟩ := readCondition_of_neither hcompares hformula
    simp [hread] at herror
  · rintro (hcompares | hformula)
    · obtain ⟨_, _, _, -, hread⟩ := readCondition_of_compares hcompares
      exact ⟨_, hread⟩
    · exact ⟨_, readCondition_of_holdsFormula hformula⟩

/-- A list can be read exactly if each of its items can. -/
theorem exists_mapM_eq_ok_iff {α β ε : Type} {f : α → Except ε β} {xs : List α} :
    (∃ ys, xs.mapM f = .ok ys) ↔ ∀ x ∈ xs, ∃ y, f x = .ok y := by
  simp only [mapM_eq_ok_iff]
  induction xs with
  | nil => simp
  | cons x xs ih => simp [List.forall₂_cons_left_iff, ← ih]

/-- The conditions of a filter can be read exactly if the tokens of each piece between marks are
those of a comparison or of a formula. -/
theorem exists_readConditions_iff (t : Text) :
    (∃ conditions, readConditions t = .ok conditions) ↔
      ∀ piece ∈ splitAlternatives t, Compares (tokenize piece) ∨ HoldsFormula (tokenize piece) := by
  rw [readConditions, exists_mapM_eq_ok_iff]
  refine forall₂_congr fun piece _ => ?_
  rw [exists_readCondition_iff, tokenize_trim]

/-- The text of a filter is split at its marks between alternatives as its tokens are, segment by
segment, exactly if no string and no reference holds a mark. A string or a reference that holds
one is split: no piece has its token. Each piece has to be a condition. -/
theorem alternatives_of_tokens (t : Text) :
    ((tokenize t).splitOnP (fun token => token.kind = .or) = (splitAlternatives t).map tokenize ↔
      ∀ token ∈ tokenize t, token.kind ∈ [TokenKind.string, .sourceRef, .selfRef] →
        Text.Undivided token.raw) ∧
    (∀ token ∈ tokenize t, token.kind ∈ [TokenKind.string, .sourceRef, .selfRef] →
      ¬ Text.Undivided token.raw → ∀ piece ∈ splitAlternatives t, token ∉ tokenize piece) ∧
    ((∃ conditions, readConditions t = .ok conditions) ↔
      ∀ piece ∈ splitAlternatives t, Compares (tokenize piece) ∨ HoldsFormula (tokenize piece)) :=
  ⟨splitOnP_tokenize_eq_iff t,
    fun _ _ _ hdivided _ hpiece => not_mem_tokenize_piece hpiece hdivided,
    exists_readConditions_iff t⟩

/-- A mark between alternatives in a quoted string splits the string, and what is before it is no
condition. -/
theorem alternatives_split_string :
    Text.bracketsBalanced "\"a||b\" == src[A]".toList = true ∧
      (tokenize "\"a||b\" == src[A]".toList).splitOnP (fun token => token.kind = .or) ≠
        (splitAlternatives "\"a||b\" == src[A]".toList).map tokenize ∧
      readConditions "\"a||b\" == src[A]".toList = .error (.noComparison "\"a".toList) := by
  refine ⟨by decide +kernel, ?_, by decide +kernel⟩
  decide +kernel

end Rowscript
