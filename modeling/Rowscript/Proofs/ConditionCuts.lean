import Rowscript.Proofs.Reading
import Rowscript.Proofs.TokenCuts

/-!
# Where conditions are cut

A condition is cut at its first operator token, and the texts on both sides have the tokens
that the condition has there. The place of the cut can be found by searching the condition for
its tokens, one behind the other: only blanks stand between two tokens, and no token begins
with a blank, so every search finds the token where it was read.
-/

namespace Rowscript

namespace Text

/-- The first place, from a given one on, where a text holds a piece. -/
def findFrom? (piece t : Text) (start : Nat) : Option Nat :=
  (List.range' start (t.length + 1 - start)).find? fun place => startsWith piece (t.drop place)

/-- A piece that does not begin with a blank is found behind the blanks at which the search
begins. -/
theorem findFrom?_append {front blanks piece rest : Text} {c : Char}
    (hblanks : ∀ d ∈ blanks, isBlank d = true) (hpiece : piece.head? = some c)
    (hc : isBlank c = false) :
    findFrom? piece (front ++ (blanks ++ (piece ++ rest))) front.length =
      some (front.length + blanks.length) := by
  rw [findFrom?, List.find?_range'_eq_some]
  refine ⟨?_, ?_, ?_⟩
  · rw [startsWith_iff, ← List.append_assoc, ← List.length_append, List.drop_left]
    exact List.prefix_append piece rest
  · rw [List.mem_range'_1]
    simp only [List.length_append]
    omega
  · intro place hstart hbefore
    rw [Bool.not_eq_true', ← Bool.not_eq_true, startsWith_iff]
    rintro ⟨more, hmore⟩
    obtain ⟨k, rfl⟩ := Nat.exists_eq_add_of_le hstart
    have hk : k < blanks.length := by omega
    -- The text goes on with a blank there, and the piece does not begin with one.
    have hhead := congrArg List.head? hmore
    rw [List.head?_append, hpiece, List.head?_drop, List.getElem?_append_right hstart,
      Nat.add_sub_cancel_left, List.getElem?_append_left hk, Option.some_or] at hhead
    exact absurd (hblanks c (List.mem_of_getElem? hhead.symm)) (by simp [hc])

end Text

/-- The places of tokens in a text, each searched from the end of the one before. -/
def locate (t : Text) : Nat → List Token → Option (List (Nat × Nat))
  | _, [] => some []
  | start, token :: tokens => do
    let place ← Text.findFrom? token.raw t start
    let places ← locate t (place + token.raw.length) tokens
    return (place, place + token.raw.length) :: places

/-- The places of the tokens of lexemes that are written one after the other from a place on. -/
def Lexeme.places : Nat → List Lexeme → List (Nat × Nat)
  | _, [] => []
  | start, l :: ls =>
    (start + l.blanks.length, start + l.render.length) :: places (start + l.render.length) ls

/-- The place of a lexeme's token is where it is written behind the lexemes before it. -/
theorem Lexeme.getElem?_places (front : List Lexeme) (l : Lexeme) (back : List Lexeme)
    (start : Nat) :
    (places start (front ++ l :: back))[front.length]? =
      some (start + (front.flatMap render ++ l.blanks).length,
        start + (front.flatMap render ++ l.blanks).length + l.token.raw.length) := by
  induction front generalizing start with
  | nil => simp [places, render, Nat.add_assoc]
  | cons first front ih =>
    rw [List.cons_append, places, List.length_cons, List.getElem?_cons_succ, ih]
    simp [Nat.add_assoc]

/-- Tokens are found by searching for them where only blanks stand between them. -/
theorem locate_map_token {ls : List Lexeme}
    (hblanks : ∀ l ∈ ls, ∀ c ∈ l.blanks, Text.isBlank c = true)
    (hraw : ∀ l ∈ ls, ∃ c ∈ l.token.raw.head?, Text.isBlank c = false) (front tail : Text) :
    locate (front ++ (ls.flatMap Lexeme.render ++ tail)) front.length (ls.map Lexeme.token) =
      some (Lexeme.places front.length ls) := by
  induction ls generalizing front with
  | nil => rfl
  | cons l ls ih =>
    obtain ⟨c, hc, hblank⟩ := hraw l List.mem_cons_self
    have htext : front ++ ((l :: ls).flatMap Lexeme.render ++ tail) =
        front ++ (l.blanks ++ (l.token.raw ++ (ls.flatMap Lexeme.render ++ tail))) := by
      simp [Lexeme.render]
    have hnext : front ++ (l.blanks ++ (l.token.raw ++ (ls.flatMap Lexeme.render ++ tail))) =
        front ++ l.render ++ (ls.flatMap Lexeme.render ++ tail) := by
      simp [Lexeme.render]
    have hplace : front.length + l.blanks.length + l.token.raw.length =
        (front ++ l.render).length := by
      simp [Lexeme.render, Nat.add_assoc]
    rw [htext, List.map_cons, locate,
      Text.findFrom?_append (hblanks l List.mem_cons_self) hc hblank, Option.bind_eq_bind,
      Option.bind_some, hplace, hnext,
      ih (fun l hl => hblanks l (List.mem_cons_of_mem _ hl))
        (fun l hl => hraw l (List.mem_cons_of_mem _ hl))]
    simp [Lexeme.places]

/-- Every token of a text is found where it was read. -/
theorem locate_tokenize (t : Text) :
    locate t 0 (tokenize t) = some (Lexeme.places 0 (lexemes t)) := by
  obtain ⟨tail, -, ht⟩ := exists_lexemes_append t
  have hcut : ∀ l ∈ lexemes t, ∃ following, l.WellCut following := by
    intro l hl
    obtain ⟨front, back, hsplit⟩ := List.append_of_mem hl
    obtain ⟨following, -, -, hcut⟩ := exists_wellCut_of_lexemes_eq hsplit
    exact ⟨following, hcut⟩
  have hblanks : ∀ l ∈ lexemes t, ∀ c ∈ l.blanks, Text.isBlank c = true :=
    fun l hl => (hcut l hl).choose_spec.blanks
  have hraw : ∀ l ∈ lexemes t, ∃ c ∈ l.token.raw.head?, Text.isBlank c = false := by
    intro l hl
    obtain ⟨c, raw, hraw, hc⟩ := (hcut l hl).choose_spec.exists_raw_eq_cons
    exact ⟨c, by simp [hraw], hc⟩
  have hlocate := locate_map_token hblanks hraw [] tail
  rwa [List.nil_append, ← ht] at hlocate

/-- A text is cut at its first operator. The texts on the two sides have the tokens that the
text has there, and the operator is found where they are cut apart. -/
structure CutsAt (t left : Text) (operator : Token) (right : Text) : Prop where
  text_eq : t = left ++ operator.raw ++ right
  tokenize_eq : tokenize t = tokenize left ++ operator :: tokenize right
  kind_eq : operator.kind = .operator
  first : ∀ token ∈ tokenize left, token.kind ≠ .operator
  located : ∃ places, locate t 0 (tokenize t) = some places ∧
    places[(tokenize left).length]? = some (left.length, left.length + operator.raw.length)

/-- A text with an operator is cut at the first one of them. -/
theorem exists_cutsAt {t : Text} {front back : List Lexeme} {operator : Lexeme}
    (hsplit : lexemes t = front ++ operator :: back)
    (hfirst : ∀ l ∈ front, l.token.kind ≠ .operator)
    (hoperator : operator.token.kind = .operator) :
    ∃ left right, CutsAt t left operator.token right ∧
      lexemes left = front ∧ lexemes right = back ∧
        Text.trim left = trimmedText front ∧ Text.trim right = trimmedText back := by
  obtain ⟨right, hright, hback, hcut⟩ := exists_wellCut_of_lexemes_eq hsplit
  obtain ⟨tail, htail, hrightText⟩ := exists_lexemes_append right
  have htext : t = (front.flatMap Lexeme.render ++ operator.blanks) ++
      (operator.token.raw ++ right) := by
    rw [hright, Lexeme.render]
    simp
  have hfront : lexemes (front.flatMap Lexeme.render ++ operator.blanks) = front :=
    lexemes_of_append (htext ▸ hsplit) rfl hcut.blanks
  refine ⟨_, right, ⟨?_, ?_, hoperator, ?_, _, locate_tokenize t, ?_⟩, hfront, hback,
    Text.trim_append_blanks hcut.blanks _, ?_⟩
  · exact htext.trans (List.append_assoc _ _ _).symm
  · rw [tokenize, hsplit, tokenize, tokenize, hfront, hback, List.map_append, List.map_cons]
  · rw [tokenize, hfront]
    simpa using hfirst
  · rw [tokenize, hfront, hsplit, List.length_map, Lexeme.getElem?_places]
    simp
  · conv_lhs => rw [hrightText, hback]
    exact Text.trim_append_blanks htail _

/-- A text with a lexeme is not empty. -/
theorem ne_nil_of_mem_lexemes {t : Text} {l : Lexeme} (hl : l ∈ lexemes t) : t ≠ [] := by
  rintro rfl
  rw [lexemes_of_trimLeft_eq_nil rfl] at hl
  simp at hl

/-- A condition whose first operator is known is a comparison, if there are tokens on both
sides of it. -/
theorem readCondition_of_split {t : Text} {left right : List Lexeme} {operator : Lexeme}
    (hsplit : lexemes t = left ++ operator :: right)
    (hfirst : ∀ l ∈ left, l.token.kind ≠ .operator)
    (hoperator : operator.token.kind = .operator) :
    readCondition t =
      if left = [] ∨ right = [] then .error (.missingOperand t)
      else .ok (.comparison (.ofLexemes left) operator.token.value (.ofLexemes right)) := by
  have hne : t ≠ [] := ne_nil_of_mem_lexemes (hsplit ▸ List.mem_append_cons_self)
  have hleft : ∀ l ∈ left, decide (l.token.kind ≠ .operator) = true := by simpa using hfirst
  rw [readCondition, if_neg hne, hsplit, List.span_eq_takeWhile_dropWhile,
    List.takeWhile_append_of_pos hleft, List.dropWhile_append_of_pos hleft]
  simp [hoperator]

/-- A condition without an operator is a formula as a whole, if it holds one. -/
theorem readCondition_of_forall_ne {t : Text} (hne : t ≠ [])
    (hnone : ∀ l ∈ lexemes t, l.token.kind ≠ .operator) :
    readCondition t =
      if ∃ l ∈ lexemes t, l.token.kind = .formula then .ok (.formula t)
      else .error (.noComparison t) := by
  have hall : ∀ l ∈ lexemes t, decide (l.token.kind ≠ .operator) = true := by simpa using hnone
  rw [readCondition, if_neg hne, List.span_eq_takeWhile_dropWhile,
    List.dropWhile_eq_nil_iff.mpr hall]
  simp

/-- Tokens are those of a comparison: there is a token before the first operator and one
behind it. -/
def Compares (tokens : List Token) : Prop :=
  ∃ i, tokens.findIdx? (fun token => token.kind = .operator) = some i ∧ 0 < i ∧
    i + 1 < tokens.length

/-- Tokens are those of a formula: there is one, and no operator. -/
def HoldsFormula (tokens : List Token) : Prop :=
  (∀ token ∈ tokens, token.kind ≠ .operator) ∧ ∃ token ∈ tokens, token.kind = .formula

/-- Where the first operator is known, there is a comparison if there are tokens on both
sides of it. -/
theorem compares_append_cons_iff {front back : List Token} {operator : Token}
    (hfirst : ∀ token ∈ front, token.kind ≠ .operator) (hoperator : operator.kind = .operator) :
    Compares (front ++ operator :: back) ↔ front ≠ [] ∧ back ≠ [] := by
  have hindex : (front ++ operator :: back).findIdx? (fun token => token.kind = .operator) =
      some front.length := by
    rw [List.findIdx?_append, List.findIdx?_eq_none_iff.mpr (by simpa using hfirst)]
    simp [List.findIdx?_cons, hoperator]
  simp only [Compares, hindex, Option.some.injEq, exists_eq_left', List.length_append,
    List.length_cons, ← List.length_pos_iff]
  omega

/-- An operand is what the text on one side of an operator is reduced to. When it keeps several
tokens, they are the tokens of the text that it keeps with them. -/
structure Operand.Reduces (side : Text) (operand : Operand) : Prop where
  eq : operand = .ofTokens (tokenize side) (Text.trim side)
  tokenize_raw : ∀ tokens raw, operand = .compound tokens raw → tokenize raw = tokens

/-- The tokens of a text with the text that was trimmed are the operand of the text. -/
theorem Operand.reduces_ofTokens (side : Text) :
    Reduces side (.ofTokens (tokenize side) (Text.trim side)) := by
  refine ⟨rfl, fun tokens raw h => ?_⟩
  unfold ofTokens at h
  split at h
  · next token _ =>
    cases hkind : token.kind <;> simp [ofToken, hkind] at h
  · obtain ⟨rfl, rfl⟩ := Operand.compound.inj h
    exact tokenize_trim side

/-- A text has no operator, or it is known which operator is its first one. -/
theorem forall_ne_or_exists_split (t : Text) :
    (∀ l ∈ lexemes t, l.token.kind ≠ .operator) ∨
      ∃ front operator back, lexemes t = front ++ operator :: back ∧
        (∀ l ∈ front, l.token.kind ≠ .operator) ∧ operator.token.kind = .operator := by
  cases hfind : (lexemes t).find? fun l => l.token.kind = .operator with
  | none => exact .inl (by simpa using hfind)
  | some operator =>
    obtain ⟨hoperator, front, back, hsplit, hfirst⟩ := List.find?_eq_some_iff_append.mp hfind
    exact .inr ⟨front, operator, back, hsplit, by simpa using hfirst, by simpa using hoperator⟩

/-- A comparison has an operator. -/
theorem Compares.exists_operator {tokens : List Token} (h : Compares tokens) :
    ∃ token ∈ tokens, token.kind = .operator := by
  obtain ⟨i, hindex, -⟩ := h
  have hany := congrArg Option.isSome hindex
  rw [List.findIdx?_isSome, Option.isSome_some, List.any_eq_true] at hany
  simpa using hany

/-- A comparison is no formula. -/
theorem Compares.not_holdsFormula {tokens : List Token} (h : Compares tokens) :
    ¬ HoldsFormula tokens := by
  rintro ⟨hnone, -⟩
  obtain ⟨token, htoken, hoperator⟩ := h.exists_operator
  exact hnone token htoken hoperator

/-- A condition with tokens before and behind its first operator is read as the comparison of
the two texts that it is cut into. -/
theorem readCondition_of_compares {t : Text} (h : Compares (tokenize t)) :
    ∃ before operator after, CutsAt t before operator after ∧
      readCondition t =
        .ok (.comparison (.ofTokens (tokenize before) (Text.trim before)) operator.value
          (.ofTokens (tokenize after) (Text.trim after))) := by
  rcases forall_ne_or_exists_split t with hnone | ⟨front, operator, back, hsplit, hfirst, hoperator⟩
  · obtain ⟨token, htoken, hoperator⟩ := h.exists_operator
    obtain ⟨l, hl, rfl⟩ := List.mem_map.mp htoken
    exact absurd hoperator (hnone l hl)
  · obtain ⟨before, after, hcuts, rfl, rfl, hbefore, hafter⟩ :=
      exists_cutsAt hsplit hfirst hoperator
    rw [hcuts.tokenize_eq, compares_append_cons_iff hcuts.first hoperator] at h
    refine ⟨before, operator.token, after, hcuts, ?_⟩
    rw [readCondition_of_split hsplit hfirst hoperator, if_neg, Operand.ofLexemes,
      Operand.ofLexemes, ← hbefore, ← hafter, tokenize, tokenize]
    simpa [tokenize] using h

/-- A condition with a formula and without an operator is read as a formula. -/
theorem readCondition_of_holdsFormula {t : Text} (h : HoldsFormula (tokenize t)) :
    readCondition t = .ok (.formula t) := by
  obtain ⟨hnone, token, htoken, hformula⟩ := h
  obtain ⟨l, hl, rfl⟩ := List.mem_map.mp htoken
  rw [readCondition_of_forall_ne (ne_nil_of_mem_lexemes hl) (by simpa [tokenize] using hnone),
    if_pos ⟨l, hl, hformula⟩]

/-- Any other condition cannot be read. -/
theorem readCondition_of_neither {t : Text} (hcompares : ¬ Compares (tokenize t))
    (hformula : ¬ HoldsFormula (tokenize t)) :
    ∃ cause ∈ [.emptyCondition, .missingOperand t, .noComparison t],
      readCondition t = .error cause := by
  by_cases hne : t = []
  · exact ⟨.emptyCondition, by simp, by simp [readCondition, hne]⟩
  rcases forall_ne_or_exists_split t with hnone | ⟨front, operator, back, hsplit, hfirst, hoperator⟩
  · refine ⟨.noComparison t, by simp, ?_⟩
    rw [readCondition_of_forall_ne hne hnone, if_neg]
    rintro ⟨l, hl, hkind⟩
    exact hformula ⟨by simpa [tokenize] using hnone, l.token, List.mem_map_of_mem hl, hkind⟩
  · refine ⟨.missingOperand t, by simp, ?_⟩
    rw [tokenize, hsplit, List.map_append, List.map_cons,
      compares_append_cons_iff (by simpa using hfirst) hoperator] at hcompares
    rw [readCondition_of_split hsplit hfirst hoperator, if_pos]
    simpa [or_iff_not_imp_left] using hcompares

/-- A condition is read as its tokens say: as a comparison exactly when there are tokens before
and behind its first operator, as a formula as a whole exactly when it has a formula and no
operator, and not at all otherwise. A comparison is cut exactly at the first operator, its
operands are what the texts on both sides are reduced to, and an operand of several tokens
keeps a text with these tokens. -/
theorem readCondition_cutsAt (t : Text) :
    ((∃ left symbol right, readCondition t = .ok (.comparison left symbol right)) ↔
      Compares (tokenize t)) ∧
    (∀ template, readCondition t = .ok (.formula template) ↔
      template = t ∧ HoldsFormula (tokenize t)) ∧
    ((∃ cause ∈ [.emptyCondition, .missingOperand t, .noComparison t],
        readCondition t = .error cause) ↔
      ¬ Compares (tokenize t) ∧ ¬ HoldsFormula (tokenize t)) ∧
    ∀ left symbol right, readCondition t = .ok (.comparison left symbol right) →
      ∃ before operator after, CutsAt t before operator after ∧ symbol = operator.value ∧
        left.Reduces before ∧ right.Reduces after := by
  by_cases hcompares : Compares (tokenize t)
  · obtain ⟨before, operator, after, hcuts, hread⟩ := readCondition_of_compares hcompares
    refine ⟨by simp [hread, hcompares], by simp [hread, hcompares.not_holdsFormula],
      by simp [hread, hcompares], fun left symbol right h => ?_⟩
    rw [hread] at h
    obtain ⟨rfl, rfl, rfl⟩ := Condition.comparison.inj (Except.ok.inj h)
    exact ⟨before, operator, after, hcuts, rfl, Operand.reduces_ofTokens before,
      Operand.reduces_ofTokens after⟩
  · by_cases hformula : HoldsFormula (tokenize t)
    · have hread := readCondition_of_holdsFormula hformula
      exact ⟨by simp [hread, hcompares], by simp [hread, hformula, eq_comm],
        by simp [hread, hformula], by simp [hread]⟩
    · obtain ⟨cause, hcause, hread⟩ := readCondition_of_neither hcompares hformula
      have hcauses : ∃ cause ∈ [.emptyCondition, .missingOperand t, .noComparison t],
          readCondition t = .error cause := ⟨cause, hcause, hread⟩
      exact ⟨by simp [hread, hcompares], by simp [hread, hformula],
        iff_of_true hcauses ⟨hcompares, hformula⟩, by simp [hread]⟩

/-- A condition is not cut where its operator stands in a string or in a column name. -/
example : readCondition "\"<\" a < src[<]".toList =
    .ok (.comparison
      (.compound [⟨.string, "<".toList, "\"<\"".toList⟩, ⟨.text, "a".toList, "a".toList⟩]
        "\"<\" a".toList)
      "<".toList (.reference ⟨.source, "<".toList⟩)) := by decide +kernel

end Rowscript
