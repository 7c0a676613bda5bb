import Rowscript.Proofs.TokenCuts

/-!
# Where tokens stand

Every token of a text stands at a place of it: behind the tokens before it and the blanks
between them. Two tokens do not overlap, and every character that is no blank lies in one of
them. So what is known of the first token of a text holds of a token at its place, with the
rest of the text behind it.
-/

namespace Rowscript

/-- Some of the lexemes of a text, from the last one on, are the lexemes of an end of it. -/
theorem exists_lexemes_eq_of_append {t : Text} {front back : List Lexeme}
    (h : lexemes t = front ++ back) :
    ∃ rest, t = front.flatMap Lexeme.render ++ rest ∧ lexemes rest = back := by
  rcases List.eq_nil_or_concat' front with rfl | ⟨front, l, rfl⟩
  · exact ⟨t, rfl, h⟩
  · rw [List.append_assoc, List.singleton_append] at h
    obtain ⟨rest, ht, hback, -⟩ := exists_wellCut_of_lexemes_eq h
    exact ⟨rest, by simpa using ht, hback⟩

/-- The first lexeme of a text is the blanks at its beginning and the first token of what
follows them; the other lexemes are those of what follows the token. -/
theorem exists_first_of_lexemes_eq_cons {t : Text} {l : Lexeme} {back : List Lexeme}
    (h : lexemes t = l :: back) :
    ∃ c rest following, t = l.blanks ++ c :: rest ∧ Text.isBlank c = false ∧
      l.token = Token.first c rest ∧ c :: rest = l.token.raw ++ following ∧
      lexemes following = back := by
  cases htrim : Text.trimLeft t with
  | nil => simp [lexemes_of_trimLeft_eq_nil htrim] at h
  | cons c rest =>
    rw [lexemes_of_trimLeft_eq_cons htrim] at h
    obtain ⟨rfl, hback⟩ := List.cons.inj h
    obtain ⟨following, hfollowing⟩ := (Token.shape_first c rest).2
    refine ⟨c, rest, following, ?_, Text.isBlank_eq_false_of_trimLeft htrim, rfl,
      hfollowing.symm, ?_⟩
    · rw [← htrim]
      exact List.takeWhile_append_dropWhile.symm
    · rwa [← hfollowing, List.drop_left] at hback

/-- The blanks of a lexeme of a text are blanks. -/
theorem isBlank_of_mem_lexemes {t : Text} {l : Lexeme} (hl : l ∈ lexemes t) :
    ∀ c ∈ l.blanks, Text.isBlank c = true := by
  obtain ⟨front, back, hsplit⟩ := List.append_of_mem hl
  obtain ⟨_, -, -, hcut⟩ := exists_wellCut_of_lexemes_eq hsplit
  exact hcut.blanks

/-- A token is read in a text, behind the given number of characters. -/
def TokenAt (t : Text) (start : Nat) (token : Token) : Prop :=
  ∃ front l back, lexemes t = front ++ l :: back ∧ l.token = token ∧
    (front.flatMap Lexeme.render ++ l.blanks).length = start

/-- A place of a text follows a character of a word. -/
def FollowsWord (t : Text) (start : Nat) : Prop :=
  ∃ c ∈ (t.take start).getLast?, Text.isWordChar c = true

/-- The characters of a text from one place up to another one lie in a token of one of the
given kinds. -/
def InsideToken (t : Text) (kinds : List TokenKind) (start stop : Nat) : Prop :=
  ∃ place token, TokenAt t place token ∧ token.kind ∈ kinds ∧ place ≤ start ∧
    stop ≤ place + token.raw.length

namespace TokenAt

variable {t : Text} {start place : Nat} {token other : Token}

/-- A token at a place of a text is one of the tokens of the text. -/
theorem mem_tokenize (h : TokenAt t start token) : token ∈ tokenize t := by
  obtain ⟨front, l, back, hsplit, rfl, -⟩ := h
  rw [tokenize, hsplit]
  exact List.mem_map_of_mem List.mem_append_cons_self

/-- A token of a text stands at a place of it. -/
theorem exists_of_mem_tokenize (h : token ∈ tokenize t) : ∃ start, TokenAt t start token := by
  obtain ⟨l, hl, rfl⟩ := List.mem_map.mp h
  obtain ⟨front, back, hsplit⟩ := List.append_of_mem hl
  exact ⟨_, front, l, back, hsplit, rfl, rfl⟩

/-- A token is the first token of the text from its place on. -/
theorem exists_first (h : TokenAt t start token) :
    ∃ before c rest, t = before ++ c :: rest ∧ before.length = start ∧
      Text.isBlank c = false ∧ token = Token.first c rest := by
  obtain ⟨front, l, back, hsplit, rfl, rfl⟩ := h
  obtain ⟨text, rfl, htext⟩ := exists_lexemes_eq_of_append hsplit
  obtain ⟨c, rest, -, rfl, hc, hfirst, -⟩ := exists_first_of_lexemes_eq_cons htext
  exact ⟨_, c, rest, (List.append_assoc _ _ _).symm, rfl, hc, hfirst⟩

/-- A token has the form of its kind. -/
theorem shape (h : TokenAt t start token) : token.Shape := by
  obtain ⟨-, c, rest, -, -, -, rfl⟩ := h.exists_first
  exact (Token.shape_first c rest).1

/-- A token has characters. -/
theorem raw_ne_nil (h : TokenAt t start token) : token.raw ≠ [] := by
  obtain ⟨-, c, rest, -, -, hc, rfl⟩ := h.exists_first
  exact Token.first_raw_ne_nil hc rest

/-- A token that reaches over a place of a text is the first token of the text from some
characters before that place on, and its own text goes on there. -/
theorem exists_first_of_le {left right : Text} (h : TokenAt (left ++ right) start token)
    (hstart : start ≤ left.length) (hstop : left.length ≤ start + token.raw.length) :
    ∃ before inner tail following c rest, left = before ++ inner ∧ before.length = start ∧
      token.raw = inner ++ tail ∧ right = tail ++ following ∧
      c :: rest = inner ++ right ∧ Text.isBlank c = false ∧ token = Token.first c rest := by
  obtain ⟨before, c, rest, ht, rfl, hc, hfirst⟩ := h.exists_first
  obtain ⟨inner, rfl⟩ := List.prefix_of_prefix_length_le ⟨_, ht.symm⟩ ⟨right, rfl⟩ hstart
  rw [List.append_assoc, List.append_cancel_left_eq] at ht
  obtain ⟨following, hfollowing⟩ := hfirst ▸ (Token.shape_first c rest).2
  rw [List.length_append, Nat.add_le_add_iff_left] at hstop
  obtain ⟨tail, htail⟩ := List.prefix_of_prefix_length_le ⟨right, ht⟩ ⟨following, hfollowing⟩ hstop
  refine ⟨before, inner, tail, following, c, rest, rfl, rfl, htail.symm, ?_, ht.symm, hc, hfirst⟩
  rw [← ht, ← htail, List.append_assoc, List.append_cancel_left_eq] at hfollowing
  exact hfollowing.symm

/-- From no place of a token of plain text on, blanks apart, another token stands, behind what
the token holds before that place. -/
theorem not_standsAt_of_text {left right : Text} {c : Char}
    (h : TokenAt (left ++ c :: right) start token) (hkind : token.kind = .text)
    (hstart : start ≤ left.length) (hstop : left.length < start + token.raw.length)
    (hc : Text.isBlank c = false) (other : Token) :
    ¬ Token.StandsAt (left.drop start).getLast? (c :: right) other := by
  obtain ⟨before, inner, tail, following, d, rest, rfl, rfl, hraw, hright, hwritten, -, rfl⟩ :=
    h.exists_first_of_le hstart hstop.le
  rw [List.drop_left]
  cases tail with
  | nil => simp [hraw] at hstop
  | cons e tail =>
    obtain ⟨rfl, rfl⟩ := List.cons.inj hright
    cases inner with
    | nil =>
      rw [List.nil_append] at hwritten
      rw [← hwritten]
      exact Token.scan?_eq_none_iff.mp (Token.kind_first_eq_text_iff.mp hkind) other
    | cons b inner =>
      exact Token.not_standsAt_inside_text hkind hraw (by simp [hwritten, hraw]) (by simp) hc other

/-- Two tokens of a text are the same one, or one of them ends before the other one begins. -/
theorem eq_of_overlap (h : TokenAt t start token) (hother : TokenAt t place other)
    (hstart : start < place + other.raw.length) (hplace : place < start + token.raw.length) :
    start = place ∧ token = other := by
  obtain ⟨front, l, back, hsplit, rfl, rfl⟩ := h
  obtain ⟨front', l', back', hsplit', rfl, rfl⟩ := hother
  rw [hsplit] at hsplit'
  -- The shorter beginning is a beginning of the longer one, and its next lexeme comes first.
  rcases List.append_eq_append_iff.mp hsplit' with ⟨gap, rfl, hgap⟩ | ⟨gap, rfl, hgap⟩
  all_goals
    cases gap with
    | nil =>
      obtain ⟨rfl, -⟩ := List.cons.inj hgap
      simp
    | cons between gap =>
      obtain ⟨rfl, -⟩ := List.cons.inj hgap
      simp only [List.flatMap_append, List.flatMap_cons, List.length_append,
        Lexeme.render] at hstart hplace
      omega

end TokenAt

/-- A character of two texts together is one of the second or of the first text. -/
theorem Text.append_eq_append_cons {s t left right : Text} {c : Char}
    (h : s ++ t = left ++ c :: right) :
    (∃ gap, left = s ++ gap ∧ t = gap ++ c :: right) ∨
      ∃ gap, s = left ++ c :: gap ∧ right = gap ++ t := by
  rcases List.append_eq_append_iff.mp h with hsecond | ⟨_ | ⟨d, gap⟩, hs, ht⟩
  · exact .inl hsecond
  · exact .inl ⟨[], by simpa using hs.symm, ht.symm⟩
  · obtain ⟨rfl, rfl⟩ := List.cons.inj ht
    exact .inr ⟨gap, hs, rfl⟩

/-- Where lexemes are written one after the other, a character that is no blank lies in the
token of one of them. -/
theorem exists_split_of_flatMap_render {ls : List Lexeme} {tail left right : Text} {c : Char}
    (hblanks : ∀ l ∈ ls, ∀ d ∈ l.blanks, Text.isBlank d = true)
    (htail : ∀ d ∈ tail, Text.isBlank d = true) (hc : Text.isBlank c = false)
    (h : ls.flatMap Lexeme.render ++ tail = left ++ c :: right) :
    ∃ front l back inner, ls = front ++ l :: back ∧
      left = front.flatMap Lexeme.render ++ l.blanks ++ inner ∧
      inner.length < l.token.raw.length := by
  have hnot : ∀ {blanks left right : Text}, (∀ d ∈ blanks, Text.isBlank d = true) →
      blanks ≠ left ++ c :: right := by
    rintro _ _ _ hblank rfl
    simp [hblank c (by simp)] at hc
  induction ls generalizing left with
  | nil => exact absurd h (hnot htail)
  | cons l ls ih =>
    rw [List.flatMap_cons, List.append_assoc] at h
    rcases Text.append_eq_append_cons h with ⟨gap, rfl, hrest⟩ | ⟨gap, hrender, -⟩
    · obtain ⟨front, next, back, inner, rfl, rfl, hlength⟩ :=
        ih (fun l hl => hblanks l (List.mem_cons_of_mem _ hl)) hrest
      exact ⟨l :: front, next, back, inner, rfl, by simp, hlength⟩
    · rcases Text.append_eq_append_cons hrender with ⟨inner, rfl, hraw⟩ | ⟨gap, hblank, -⟩
      · exact ⟨[], l, ls, inner, rfl, by simp, by simp [hraw]⟩
      · exact absurd hblank (hnot (hblanks l List.mem_cons_self))

/-- Every character of a text that is no blank lies in one of its tokens. -/
theorem exists_tokenAt_of_isBlank_eq_false (left right : Text) {c : Char}
    (hc : Text.isBlank c = false) :
    ∃ start token, TokenAt (left ++ c :: right) start token ∧ start ≤ left.length ∧
      left.length < start + token.raw.length := by
  obtain ⟨tail, htail, ht⟩ := exists_lexemes_append (left ++ c :: right)
  obtain ⟨front, l, back, inner, hsplit, hleft, hlength⟩ :=
    exists_split_of_flatMap_render (fun l hl => isBlank_of_mem_lexemes hl) htail hc ht.symm
  refine ⟨_, l.token, ⟨front, l, back, hsplit, rfl, rfl⟩, ?_, ?_⟩
  all_goals
    simp only [hleft, List.length_append]
    omega

end Rowscript
