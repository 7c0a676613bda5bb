import Rowscript.Proofs.NumberTokens

/-!
# Texts and their tokens

Cutting a text into tokens loses nothing of it but blanks, and what is written in a token is
what the token stands for. Plain text is what is left over: inside it no other token can
begin. To say so without the scanner, the forms of tokens are enough, because the scanner
finds a token exactly where one of these forms is written.
-/

namespace Rowscript

/-- Whether tokens of a kind begin only where no word runs into them. -/
def TokenKind.beginsWord : TokenKind → Bool
  | .sourceRef => true
  | .selfRef => true
  | .number => true
  | _ => false

namespace Token

/-- A token other than plain text is written at the beginning of a text that follows a
character. A reference or a number does not follow a character of a word. -/
structure StandsAt (before : Option Char) (t : Text) (token : Token) : Prop where
  shape : token.Shape
  kind_ne_text : token.kind ≠ .text
  beginsWord : token.kind.beginsWord = true → startsWord before = true
  written : token.raw <+: t

/-- What is read as a reference is of a reference's kind. -/
theorem kind_of_reference? {t : Text} {token : Token} (h : reference? t = some token) :
    token.kind = .sourceRef ∨ token.kind = .selfRef := by
  simp only [reference?, Option.map_eq_some_iff] at h
  obtain ⟨⟨r, _⟩, -, rfl⟩ := h
  exact kind_ofReference r

/-- What is read as an operator is of an operator's kind. -/
theorem kind_of_operator? {t : Text} {token : Token} (h : operator? t = some token) :
    token.kind = .operator := by
  simp only [operator?, Option.map_eq_some_iff] at h
  obtain ⟨op, -, rfl⟩ := h
  rfl

/-- What is read as a formula is of a formula's kind. -/
theorem kind_of_formula? {t : Text} {token : Token} (h : formula? t = some token) :
    token.kind = .formula := by
  unfold formula? at h
  split at h
  · simp only [Option.ite_none_left_eq_some, Option.some.injEq] at h
    exact h.2 ▸ rfl
  · simp at h

/-- What is read as a quoted string is of a string's kind. -/
theorem kind_of_string? {t : Text} {token : Token} (h : string? t = some token) :
    token.kind = .string := by
  unfold string? at h
  split at h
  · simp only [Option.ite_none_left_eq_some, Option.some.injEq] at h
    exact h.2 ▸ rfl
  · simp at h

/-- What is read as a number is of a number's kind. -/
theorem kind_of_number? {t : Text} {token : Token} (h : number? t = some token) :
    token.kind = .number := by
  simp only [number?, Option.ite_none_left_eq_some] at h
  obtain ⟨-, h⟩ := h
  split at h
  · split at h <;> exact Option.some.inj h ▸ rfl
  · exact Option.some.inj h ▸ rfl

/-- What is read as a mark between alternatives is of that kind. -/
theorem kind_of_or? {t : Text} {token : Token} (h : or? t = some token) : token.kind = .or := by
  simp only [or?, Option.ite_none_right_eq_some, Option.some.injEq] at h
  exact h.2 ▸ rfl

/-- A token that the scanner finds stands at the beginning of the text. -/
theorem standsAt_of_scan? {before : Option Char} {t : Text} {token : Token}
    (h : scan? before t = some token) : StandsAt before t token := by
  obtain ⟨hshape, hwritten⟩ := shape_of_scan? h
  have hkind : token.kind ≠ .text ∧
      (token.kind.beginsWord = true → startsWord before = true) := by
    simp only [scan?, Option.or_eq_some_iff, Option.ite_none_right_eq_some] at h
    rcases h with ⟨hword, h⟩ | ⟨_, h | ⟨_, h | ⟨_, h | ⟨_, ⟨hword, h⟩ | ⟨_, h⟩⟩⟩⟩⟩
    · rcases kind_of_reference? h with hkind | hkind <;> simp [hkind, hword]
    · simp [kind_of_operator? h, TokenKind.beginsWord]
    · simp [kind_of_formula? h, TokenKind.beginsWord]
    · simp [kind_of_string? h, TokenKind.beginsWord]
    · simp [kind_of_number? h, hword]
    · simp [kind_of_or? h, TokenKind.beginsWord]
  exact ⟨hshape, hkind.1, hkind.2, hwritten⟩

/-- A reference is found where it is written. -/
theorem isSome_reference? {r : Reference} (hr : r.WellFormed) (rest : Text) :
    (reference? (r.render ++ rest)).isSome = true := by
  simp [reference?, Reference.scan?_render_append hr]

/-- An operator is found where the symbol of one is written. -/
theorem isSome_operator? (op : Operator) (rest : Text) :
    (operator? (op.symbol ++ rest)).isSome = true := by
  have hmem : op ∈ Operator.all := by cases op <;> decide
  have hstart : Text.startsWith op.symbol (op.symbol ++ rest) = true := by
    simp [Text.startsWith]
  rw [operator?, Option.isSome_map, List.find?_isSome]
  exact ⟨op, hmem, hstart⟩

/-- A formula is found where an equals sign and a character of a formula are written. -/
theorem isSome_formula? {body : Text} (hne : body ≠ [])
    (hbody : ∀ c ∈ body, isFormulaChar c = true) (rest : Text) :
    (formula? ('=' :: (body ++ rest))).isSome = true := by
  obtain ⟨c, body, rfl⟩ := List.exists_cons_of_ne_nil hne
  have hc : isFormulaChar c = true := hbody c List.mem_cons_self
  simp [formula?, hc]

/-- A string is found where two quotes are written. -/
theorem isSome_string? (value rest : Text) :
    (string? ('"' :: (value ++ '"' :: rest))).isSome = true := by
  have hquote : (value ++ '"' :: rest).dropWhile (· ≠ '"') ≠ [] := by
    rw [Ne, List.dropWhile_eq_nil_iff]
    intro hall
    simpa using hall '"' (by simp)
  rw [string?, if_neg hquote]
  rfl

/-- A number is found where a digit is written. -/
theorem isSome_number? {c : Char} (hc : Text.isDigit c = true) (rest : Text) :
    (number? (c :: rest)).isSome = true := by
  have hwhole : (c :: rest).takeWhile Text.isDigit ≠ [] := by simp [hc]
  simp only [number?, if_neg hwhole]
  split
  · split <;> rfl
  · rfl

/-- The scanner finds a token wherever one stands. -/
theorem StandsAt.isSome_scan? {before : Option Char} {t : Text} {token : Token}
    (h : StandsAt before t token) : (scan? before t).isSome = true := by
  obtain ⟨hshape, hkind, hword, rest, rfl⟩ := h
  simp only [scan?, Option.isSome_or, Bool.or_eq_true]
  cases hshape with
  | reference r hr =>
    have hstart : startsWord before = true := by
      apply hword
      rcases kind_ofReference r with hr | hr <;> rw [hr] <;> rfl
    rw [raw_ofReference, if_pos hstart]
    exact .inl (isSome_reference? hr rest)
  | operator op => exact .inr (.inl (isSome_operator? op rest))
  | formula hne hbody => exact .inr (.inr (.inl (isSome_formula? hne hbody rest)))
  | @string value _ =>
    have hquoted := isSome_string? value rest
    have hraw : '"' :: (value ++ '"' :: rest) = '"' :: value ++ ['"'] ++ rest := by simp
    rw [hraw] at hquoted
    exact .inr (.inr (.inr (.inl hquoted)))
  | whole hne hdigits =>
    obtain ⟨c, digits, rfl⟩ := List.exists_cons_of_ne_nil hne
    have hnumber := isSome_number? (hdigits c List.mem_cons_self) (digits ++ rest)
    simp only [hword rfl, if_true]
    exact .inr (.inr (.inr (.inr (.inl hnumber))))
  | @fraction _ fraction mark hne hwhole _ _ _ =>
    obtain ⟨c, whole, rfl⟩ := List.exists_cons_of_ne_nil hne
    have hnumber := isSome_number? (hwhole c List.mem_cons_self) (whole ++ mark :: fraction ++ rest)
    simp only [hword rfl, if_true]
    exact .inr (.inr (.inr (.inr (.inl hnumber))))
  | or => exact .inr (.inr (.inr (.inr (.inr rfl))))
  | text raw => exact absurd rfl hkind

/-- The scanner finds nothing exactly where no token stands. -/
theorem scan?_eq_none_iff {before : Option Char} {t : Text} :
    scan? before t = none ↔ ∀ token, ¬ StandsAt before t token := by
  constructor
  · intro hnone token hstands
    have hsome := hstands.isSome_scan?
    simp [hnone] at hsome
  · intro hnone
    rw [Option.eq_none_iff_forall_not_mem]
    exact fun token hscan => hnone token (standsAt_of_scan? hscan)

/-- Every other token than plain text is one that the scanner finds. -/
theorem kind_first_eq_text_iff {c : Char} {rest : Text} :
    (first c rest).kind = .text ↔ scan? none (c :: rest) = none := by
  unfold first
  cases h : scan? none (c :: rest) with
  | none => simp [plain]
  | some token => simpa using (standsAt_of_scan? h).kind_ne_text

/-- Inside the rest of a span of plain text no token begins but at blanks. -/
theorem scan?_eq_none_of_plainTail {before c : Char} {t left right : Text}
    (h : plainTail before t = left ++ c :: right) (hc : Text.isBlank c = false) :
    scan? (before :: left).getLast? (t.drop left.length) = none := by
  induction t generalizing before left with
  | nil => simp [plainTail] at h
  | cons d rest ih =>
    rw [plainTail] at h
    split at h
    · simp at h
    · next hstop =>
      cases left with
      | nil =>
        obtain ⟨rfl, -⟩ := List.cons.inj h
        simpa [hc] using hstop
      | cons e left =>
        obtain ⟨rfl, htail⟩ := List.cons.inj h
        simpa using ih htail

/-- Inside a token of plain text no token stands but at blanks. -/
theorem not_standsAt_inside_text {c d : Char} {rest left right following : Text}
    (hkind : (first c rest).kind = .text) (hraw : (first c rest).raw = left ++ d :: right)
    (hrest : c :: rest = (first c rest).raw ++ following) (hleft : left ≠ [])
    (hd : Text.isBlank d = false) (token : Token) :
    ¬ StandsAt left.getLast? (d :: right ++ following) token := by
  refine scan?_eq_none_iff.mp ?_ token
  have hnone := kind_first_eq_text_iff.mp hkind
  have htext : (first c rest).raw = Text.trimRight (c :: plainTail c rest) := by
    rw [first, hnone]
    rfl
  -- The span of plain text is the token with the blanks that were trimmed off.
  obtain ⟨blanks, -, hspan⟩ := Text.exists_trimRight_append (c :: plainTail c rest)
  rw [← htext, hraw] at hspan
  obtain ⟨e, left, rfl⟩ := List.exists_cons_of_ne_nil hleft
  rw [List.cons_append, List.cons_append, List.append_assoc, List.cons_append] at hspan
  obtain ⟨rfl, htail⟩ := List.cons.inj hspan
  have hscan := scan?_eq_none_of_plainTail htail hd
  rw [hraw] at hrest
  obtain ⟨-, hrest⟩ := List.cons.inj hrest
  rw [hrest] at hscan
  simpa using hscan

/-- A token other than a reference, a string and plain text holds no blank. -/
theorem Shape.isBlank_eq_false {token : Token} (h : token.Shape)
    (hkind : token.kind ∉ [TokenKind.sourceRef, .selfRef, .string, .text]) :
    ∀ c ∈ token.raw, Text.isBlank c = false := by
  cases h with
  | reference r _ => rcases kind_ofReference r with hr | hr <;> simp [hr] at hkind
  | operator op => cases op <;> decide
  | @formula body _ hbody =>
    intro c hc
    rcases List.mem_cons.mp hc with rfl | hc
    · decide
    · have hformula := hbody c hc
      simp only [isFormulaChar, Bool.and_eq_true, Bool.not_eq_true'] at hformula
      exact hformula.1.1.2
  | string _ => simp at hkind
  | whole _ hdigits => exact fun c hc => Text.isBlank_of_isDigit (hdigits c hc)
  | @fraction whole fraction mark _ hwhole hmark hfraction _ =>
    intro c hc
    rcases List.mem_append.mp hc with hc | hc
    · exact Text.isBlank_of_isDigit (hwhole c hc)
    rcases List.mem_cons.mp hc with rfl | hc
    · rcases hmark with rfl | rfl <;> decide
    · exact Text.isBlank_of_isDigit (hfraction c hc)
  | or => decide
  | text raw => simp [plain] at hkind

/-- A token other than plain text neither begins nor ends with a blank. -/
theorem Shape.trim_raw {token : Token} (h : token.Shape) (hkind : token.kind ≠ .text) :
    Text.trim token.raw = token.raw := by
  by_cases hblank : token.kind ∈ [TokenKind.sourceRef, .selfRef, .string, .text]
  · cases h with
    | reference r _ =>
      rw [raw_ofReference]
      obtain ⟨rest, hrest⟩ := r.render_eq_cons
      apply Text.trim_eq_self_of_ends
      · simp only [hrest, List.head?_cons, Option.mem_def, Option.some.injEq, forall_eq']
        decide
      · simp only [Reference.render, List.getLast?_concat, Option.mem_def, Option.some.injEq,
          forall_eq']
        decide
    | string _ =>
      apply Text.trim_eq_self_of_ends
      · simp only [List.cons_append, List.head?_cons, Option.mem_def, Option.some.injEq, forall_eq']
        decide
      · simp only [List.getLast?_concat, Option.mem_def, Option.some.injEq, forall_eq']
        decide
    | _ => simp [plain] at hblank hkind
  · exact Text.trim_eq_self (h.isBlank_eq_false hblank)

/-- The first token of a text that does not begin with a blank neither begins nor ends with
one. -/
theorem trim_first_raw {c : Char} (hc : Text.isBlank c = false) (rest : Text) :
    Text.trim (first c rest).raw = (first c rest).raw := by
  by_cases hkind : (first c rest).kind = .text
  · have htext : (first c rest).raw = Text.trimRight (c :: plainTail c rest) := by
      rw [first, kind_first_eq_text_iff.mp hkind]
      rfl
    rw [htext, Text.trim_trimRight, Text.trim, Text.trimLeft_cons hc]
  · exact (shape_first c rest).1.trim_raw hkind

end Token

/-- A lexeme of a text that is followed by the given text is cut well: there are blanks before
its token only, the token has the form of its kind and is trimmed, and inside plain text no
other token stands but at blanks. -/
structure Lexeme.WellCut (l : Lexeme) (following : Text) : Prop where
  blanks : ∀ c ∈ l.blanks, Text.isBlank c = true
  raw_ne_nil : l.token.raw ≠ []
  trim_raw : Text.trim l.token.raw = l.token.raw
  shape : l.token.Shape
  swallows_nothing : l.token.kind = .text → ∀ left c right, l.token.raw = left ++ c :: right →
    left ≠ [] → Text.isBlank c = false →
      ∀ token, ¬ Token.StandsAt left.getLast? (c :: right ++ following) token

/-- Where the lexemes of a text are divided, the text is divided too: a lexeme is the first
token of what is left, and the lexemes behind it are those of what follows the token. -/
theorem exists_wellCut_of_lexemes_eq {t : Text} {l : Lexeme} {back : List Lexeme} :
    ∀ {front : List Lexeme}, lexemes t = front ++ l :: back →
      ∃ following, t = front.flatMap Lexeme.render ++ l.render ++ following ∧
        lexemes following = back ∧ l.WellCut following := by
  fun_induction lexemes t with
  | case1 => simp
  | case2 t c rest htrim =>
    rename_i token ih
    intro front h
    have hc := Text.isBlank_eq_false_of_trimLeft htrim
    obtain ⟨hshape, following, hfollowing⟩ := Token.shape_first c rest
    have hdrop : (c :: rest).drop token.raw.length = following := by
      rw [← hfollowing, List.drop_left]
    have ht : t = t.takeWhile Text.isBlank ++ token.raw ++ following := by
      rw [List.append_assoc, hfollowing, ← htrim, Text.trimLeft, List.takeWhile_append_dropWhile]
    rw [hdrop] at h ih
    cases front with
    | nil =>
      obtain ⟨rfl, hback⟩ := List.cons.inj h
      refine ⟨following, by simpa [Lexeme.render] using ht, hback, ?_, ?_, ?_, hshape, ?_⟩
      · exact fun d hd => List.mem_takeWhile_imp hd
      · exact Token.first_raw_ne_nil hc rest
      · exact Token.trim_first_raw hc rest
      · intro hkind left d right hraw hleft hd
        exact Token.not_standsAt_inside_text hkind hraw hfollowing.symm hleft hd
    | cons first front =>
      obtain ⟨rfl, hrest⟩ := List.cons.inj h
      obtain ⟨tail, hsplit, hback, hcut⟩ := ih hrest
      refine ⟨tail, ?_, hback, hcut⟩
      rw [hsplit] at ht
      simpa [Lexeme.render] using ht

/-- Cutting a text into tokens loses nothing and invents nothing. The text is the tokens in
their order with blanks around them; every token is written as the form of its kind says,
without blanks at its ends, and carries the value that is written there; and inside a token
of plain text no other token stands. -/
theorem tokenize_lossless (t : Text) :
    ∃ tail : Text, (∀ c ∈ tail, Text.isBlank c = true) ∧
      t = (lexemes t).flatMap Lexeme.render ++ tail ∧
      tokenize t = (lexemes t).map Lexeme.token ∧
      ∀ front l back, lexemes t = front ++ l :: back →
        l.WellCut (back.flatMap Lexeme.render ++ tail) := by
  obtain ⟨tail, htail, ht⟩ := exists_lexemes_append t
  refine ⟨tail, htail, ht, rfl, fun front l back hsplit => ?_⟩
  obtain ⟨following, hfollowing, -, hcut⟩ := exists_wellCut_of_lexemes_eq hsplit
  -- What follows the lexeme is what the text ends with.
  have heq : back.flatMap Lexeme.render ++ tail = following := by
    rw [hsplit] at ht
    rw [ht] at hfollowing
    simpa using hfollowing
  rwa [heq]

/-- Plain text ends before a reference that stands on a word boundary and goes on over digits
that do not. -/
example : (tokenize "Total2: src[A] EUR".toList).map (fun token => (token.kind, token.raw)) =
    [(.text, "Total2:".toList), (.sourceRef, "src[A]".toList), (.text, "EUR".toList)] := by
  decide +kernel

end Rowscript
