import Rowscript.Proofs.NumeralGrammar
import Rowscript.Proofs.TokenPlaces

/-!
# References and numbers begin words

A reference or a number is only read where no word runs into it, but the reader does not look
back behind a token that it has read. Tokens are as long as they can be, and so the character in
front of a reference or a number belongs to a word in one case only: a number ends there and a
reference follows it.
-/

namespace Rowscript

namespace Text

/-- A digit of any script is a character of a word. -/
theorem isWordChar_of_isDigit {c : Char} (h : isDigit c = true) : isWordChar c = true := by
  obtain ⟨first, hfirst, k, hk, hc⟩ := exists_first_of_isDigit h
  rcases List.mem_cons.mp hfirst with rfl | hfirst
  · have hascii : ∀ k < 10, isWordChar (Char.ofNat (0x30 + k)) = true := by decide
    have hdigit := hascii k hk
    rwa [← hc, Char.ofNat_toNat] at hdigit
  · -- The digits of a script lie in one range of characters of words.
    have hranges : ∀ first ∈ digitZeros, Nat.ble 0x80 first && wordRanges.any fun range =>
        Nat.ble range.1 first && Nat.ble (first + 9) range.2 := by
      decide +kernel
    have hrange := hranges first hfirst
    simp only [Bool.and_eq_true, List.any_eq_true, Nat.ble_eq] at hrange
    obtain ⟨hbeyond, range, hmem, hfrom, hto⟩ := hrange
    rw [isWordChar, if_neg (by omega)]
    refine List.any_eq_true.mpr ⟨range, hmem, ?_⟩
    simp only [Bool.and_eq_true, decide_eq_true_eq]
    omega

/-- No blank is a character of a word. -/
theorem isWordChar_of_isBlank {c : Char} (h : isBlank c = true) : isWordChar c = false := by
  obtain ⟨range, hrange, hc⟩ := List.any_eq_true.mp h
  simp only [Bool.and_eq_true, decide_eq_true_eq] at hc
  have hcodes : ∀ k ≤ range.2 - range.1, isWordChar (Char.ofNat (range.1 + k)) = false := by
    clear hc
    revert range
    decide +kernel
  have hcode := hcodes (c.toNat - range.1) (by omega)
  rwa [Nat.add_sub_cancel' hc.1, Char.ofNat_toNat] at hcode

/-- The character behind what is taken from the beginning of a text is of another kind. -/
theorem eq_false_of_takeWhile_append {p : Char → Bool} {t rest : Text} {d : Char}
    (h : t = t.takeWhile p ++ d :: rest) : p d = false := by
  have hrest : t.dropWhile p = d :: rest := by
    rwa [← List.append_cancel_left_eq (t.takeWhile p), List.takeWhile_append_dropWhile]
  have hhead := List.head?_dropWhile_not p t
  simpa [hrest] using hhead

end Text

namespace Token

/-- A reference begins with the first letter of its keyword, and a number with a digit. -/
theorem Shape.exists_raw_eq_cons {token : Token} (h : token.Shape)
    (hkind : token.kind ∈ [TokenKind.sourceRef, .selfRef, .number]) :
    ∃ d tail, token.raw = d :: tail ∧
      (token.kind ≠ .number ∧ d = 's' ∨ token.kind = .number ∧ Text.isDigit d = true) := by
  cases h with
  | reference r _ =>
    obtain ⟨rest, hrest⟩ := r.render_eq_cons
    refine ⟨'s', rest, by rw [raw_ofReference, hrest], .inl ⟨?_, rfl⟩⟩
    rcases kind_ofReference r with hr | hr <;> simp [hr]
  | whole hne hdigits =>
    obtain ⟨d, tail, rfl⟩ := List.exists_cons_of_ne_nil hne
    exact ⟨d, tail, rfl, .inr ⟨rfl, hdigits d List.mem_cons_self⟩⟩
  | fraction hne hwhole =>
    obtain ⟨d, tail, rfl⟩ := List.exists_cons_of_ne_nil hne
    exact ⟨d, tail ++ _, rfl, .inr ⟨rfl, hwhole d List.mem_cons_self⟩⟩
  | _ => simp [plain] at hkind

/-- A number ends with a digit. -/
theorem Shape.isDigit_getLast? {token : Token} (h : token.Shape) (hkind : token.kind = .number) :
    ∃ d ∈ token.raw.getLast?, Text.isDigit d = true := by
  have hlast : ∀ {digits : Text}, digits ≠ [] → (∀ c ∈ digits, Text.isDigit c = true) →
      ∃ d ∈ digits.getLast?, Text.isDigit d = true := fun hne hdigits =>
    ⟨_, List.getLast?_eq_some_getLast hne, hdigits _ (List.getLast_mem hne)⟩
  cases h with
  | whole hne hdigits => exact hlast hne hdigits
  | fraction _ _ _ hfraction hsome =>
    obtain ⟨d, hd, hdigit⟩ := hlast hsome hfraction
    refine ⟨d, ?_, hdigit⟩
    simp [plain, List.getLast?_append, List.getLast?_cons, Option.mem_def.mp hd]
  | reference r _ => rcases kind_ofReference r with hr | hr <;> simp [hr] at hkind
  | _ => simp [plain] at hkind

/-- A formula or a number that is read at the beginning of a text is read by its own reader. -/
theorem formula?_or_number?_of_scan? {before : Option Char} {t : Text} {token : Token}
    (h : scan? before t = some token) :
    (token.kind = .formula → formula? t = some token) ∧
      (token.kind = .number → number? t = some token) := by
  simp only [scan?, Option.or_eq_some_iff, Option.ite_none_right_eq_some] at h
  rcases h with ⟨-, h⟩ | ⟨-, h | ⟨-, h | ⟨-, h | ⟨-, ⟨-, h⟩ | ⟨-, h⟩⟩⟩⟩⟩
  · rcases kind_of_reference? h with hkind | hkind <;> simp [hkind]
  · simp [kind_of_operator? h]
  · exact ⟨fun _ => h, by simp [kind_of_formula? h]⟩
  · simp [kind_of_string? h]
  · exact ⟨by simp [kind_of_number? h], fun _ => h⟩
  · simp [kind_of_or? h]

/-- A formula ends in front of a character that no formula holds. -/
theorem isFormulaChar_of_formula? {t following : Text} {token : Token} {d : Char}
    (h : formula? t = some token) (ht : t = token.raw ++ d :: following) :
    isFormulaChar d = false := by
  unfold formula? at h
  split at h
  · simp only [Option.ite_none_left_eq_some, Option.some.injEq] at h
    obtain ⟨-, rfl⟩ := h
    exact Text.eq_false_of_takeWhile_append (List.cons.inj ht).2
  · simp at h

/-- A number ends in front of a character that is no digit. -/
theorem isDigit_of_number? {t following : Text} {token : Token} {d : Char}
    (h : number? t = some token) (ht : t = token.raw ++ d :: following) :
    Text.isDigit d = false := by
  rw [number?_eq, Option.ite_none_left_eq_some, Option.some.injEq] at h
  obtain ⟨-, rfl⟩ := h
  cases htail : t.dropWhile Text.isDigit with
  | nil =>
    rw [htail] at ht
    exact Text.eq_false_of_takeWhile_append ht
  | cons mark rest =>
    have hsplit : t = t.takeWhile Text.isDigit ++ mark :: rest := by
      rw [← htail, List.takeWhile_append_dropWhile]
    rw [htail, numberToken] at ht
    split at ht
    · have hrest := hsplit.symm.trans ht
      rw [plain, List.append_assoc, List.append_cancel_left_eq] at hrest
      exact Text.eq_false_of_takeWhile_append (List.cons.inj hrest).2
    · exact Text.eq_false_of_takeWhile_append ht

/-- Plain text ends where a word may begin, if a reference or a number follows it. -/
theorem startsWord_of_text {c d : Char} {rest following : Text}
    (hkind : (first c rest).kind = .text) (hrest : c :: rest = (first c rest).raw ++ d :: following)
    (hblank : Text.isBlank d = false) (hd : d = 's' ∨ Text.isDigit d = true) :
    startsWord (first c rest).raw.getLast? = true := by
  have hnone := kind_first_eq_text_iff.mp hkind
  have htext : (first c rest).raw = Text.trimRight (c :: plainTail c rest) := by
    rw [first, hnone]
    rfl
  obtain ⟨blanks, hblanks, hspan⟩ := Text.exists_trimRight_append (c :: plainTail c rest)
  obtain ⟨remaining, hremaining⟩ := plainTail_isPrefix c rest
  rw [← htext] at hspan
  -- A blank at the end of the span would stand in front of the character that follows.
  have hfollowing : blanks ++ remaining = d :: following := by
    rw [← List.append_cancel_left_eq (first c rest).raw, ← hrest, ← List.append_assoc, ← hspan,
      List.cons_append, hremaining]
  cases blanks with
  | cons e blanks =>
    obtain ⟨rfl, -⟩ := List.cons.inj hfollowing
    simp [hblanks] at hblank
  | nil =>
    rw [List.nil_append] at hfollowing
    rw [hfollowing] at hremaining
    obtain ⟨token, htoken⟩ :=
      Option.isSome_iff_exists.mp (stop_of_plainTail hremaining.symm).2
    rw [List.append_nil] at hspan
    rw [hspan] at htoken
    have hstands := standsAt_of_scan? htoken
    refine hstands.beginsWord ?_
    by_contra hword
    obtain ⟨e, _, heq, hs, hdigit⟩ := hstands.exists_eq_cons (by simpa using hword)
    obtain ⟨rfl, -⟩ := List.cons.inj heq
    rcases hd with rfl | hd
    · exact hs rfl
    · simp [hd] at hdigit

/-- References, strings, operators and marks between alternatives do not end with a character of
a word. -/
theorem Shape.isWordChar_getLast? {token : Token} (h : token.Shape)
    (hkind : token.kind ∉ [TokenKind.number, .formula, .text]) {w : Char}
    (hw : w ∈ token.raw.getLast?) : Text.isWordChar w = false := by
  cases h with
  | reference r _ =>
    obtain rfl : ']' = w := by simpa [Reference.render] using hw
    decide
  | string _ =>
    obtain rfl : '"' = w := by simpa [List.getLast?_cons] using hw
    decide
  | operator op => cases op <;> (obtain rfl := Option.some.inj hw; decide)
  | or => obtain rfl := Option.some.inj hw; decide
  | _ => simp [plain] at hkind

/-- Where a reference or a number follows a token that ends with a character of a word, the token
is a number and no digit follows it. -/
theorem eq_number_of_isWordChar {c d w : Char} {rest following : Text}
    (hrest : c :: rest = (first c rest).raw ++ d :: following)
    (hd : d = 's' ∨ Text.isDigit d = true) (hlast : w ∈ (first c rest).raw.getLast?)
    (hw : Text.isWordChar w = true) :
    (first c rest).kind = .number ∧ Text.isDigit d = false := by
  have hinside : Text.isBlank d = false ∧ isFormulaChar d = true := by
    rcases hd with rfl | hd
    · decide
    · have hblank := Text.isBlank_of_isDigit hd
      have hne : ∀ e, Text.isDigit e = false → d ≠ e := by
        rintro e he rfl
        simp [hd] at he
      simp [isFormulaChar, hblank, hne '"' (by decide), hne '|' (by decide), hne '=' (by decide)]
  have hread : (first c rest).kind ≠ .text → scan? none (c :: rest) = some (first c rest) := by
    intro hkind
    rw [Ne, kind_first_eq_text_iff, ← Ne, Option.ne_none_iff_exists] at hkind
    obtain ⟨token, htoken⟩ := hkind
    rw [first, ← htoken, Option.getD_some]
  cases hkind : (first c rest).kind with
  | number =>
    have hnumber := (formula?_or_number?_of_scan? (hread (by simp [hkind]))).2 hkind
    exact ⟨rfl, isDigit_of_number? hnumber hrest⟩
  | text =>
    have hstart := startsWord_of_text hkind hrest hinside.1 hd
    rw [startsWord, Option.mem_def.mp hlast] at hstart
    simp [hw] at hstart
  | formula =>
    have hformula := (formula?_or_number?_of_scan? (hread (by simp [hkind]))).1 hkind
    have hnot := isFormulaChar_of_formula? hformula hrest
    simp [hinside.2] at hnot
  | _ =>
    have hnot := (shape_first c rest).1.isWordChar_getLast? (by simp [hkind]) hlast
    simp [hw] at hnot

end Token

/-- A token that ends at a place of a text is the first token of the text from some characters
before that place on, and those characters are its own text. -/
theorem TokenAt.exists_first_of_stop {left right : Text} {place : Nat} {token : Token}
    (h : TokenAt (left ++ right) place token) (hstop : place + token.raw.length = left.length) :
    ∃ before c rest, left = before ++ token.raw ∧ c :: rest = token.raw ++ right ∧
      token = Token.first c rest := by
  obtain ⟨before, inner, tail, following, c, rest, hleft, rfl, hraw, -, hwritten, -, hfirst⟩ :=
    h.exists_first_of_le (by omega) hstop.ge
  have htail : tail = [] := by
    rw [hleft, hraw] at hstop
    simpa using hstop
  rw [htail, List.append_nil] at hraw
  exact ⟨before, c, rest, by rw [hraw, hleft], by rw [hraw, hwritten], hfirst⟩

/-- A character in front of a token is a blank or the last one of another token. -/
theorem TokenAt.exists_stop {left right : Text} {c : Char} {token : Token}
    (h : TokenAt (left ++ [c] ++ right) (left ++ [c]).length token)
    (hc : Text.isBlank c = false) :
    ∃ place previous, TokenAt (left ++ [c] ++ right) place previous ∧
      place + previous.raw.length = (left ++ [c]).length := by
  obtain ⟨place, previous, hprevious, hplace, hstop⟩ :=
    exists_tokenAt_of_isBlank_eq_false left right hc
  rw [← List.singleton_append, ← List.append_assoc] at hprevious
  refine ⟨place, previous, hprevious, ?_⟩
  -- If it went on, it would overlap with the token that begins behind the character.
  by_contra hne
  have hpos := List.length_pos_iff.mpr h.raw_ne_nil
  have hlength : (left ++ [c]).length = left.length + 1 := by simp
  have hsame := (h.eq_of_overlap hprevious (by omega) (by omega)).1
  omega

/-- Where a reference or a number is read, a word runs into it in one case only: it is a
reference, and a number ends in front of it. -/
theorem TokenAt.followsWord_iff {t : Text} {start : Nat} {token : Token}
    (h : TokenAt t start token) (hkind : token.kind ∈ [TokenKind.sourceRef, .selfRef, .number]) :
    FollowsWord t start ↔ token.kind ≠ .number ∧ ∃ place number, TokenAt t place number ∧
      number.kind = .number ∧ place + number.raw.length = start := by
  obtain ⟨before, c, rest, rfl, rfl, -, hfirst⟩ := h.exists_first
  obtain ⟨d, tail, hraw, hd⟩ := h.shape.exists_raw_eq_cons hkind
  obtain ⟨following, hfollowing⟩ := hfirst ▸ (Token.shape_first c rest).2
  rw [hraw, List.cons_append] at hfollowing
  obtain ⟨rfl, -⟩ := List.cons.inj hfollowing
  rw [FollowsWord, List.take_left]
  constructor
  · rintro ⟨w, hlast, hw⟩
    obtain ⟨left, rfl⟩ := List.getLast?_eq_some_iff.mp hlast
    have hblank : Text.isBlank w = false := by
      by_contra hblank
      simp [Text.isWordChar_of_isBlank (Bool.not_eq_false _ ▸ hblank)] at hw
    obtain ⟨place, previous, hprevious, hend⟩ := h.exists_stop hblank
    obtain ⟨front, e, more, hleft, hwritten, rfl⟩ := hprevious.exists_first_of_stop hend
    rw [hleft, List.getLast?_append_of_ne_nil front hprevious.raw_ne_nil] at hlast
    obtain ⟨hnumber, hdigit⟩ :=
      Token.eq_number_of_isWordChar hwritten (hd.imp And.right And.right) hlast hw
    refine ⟨fun hkind => ?_, place, _, hprevious, hnumber, hend⟩
    simp [hkind, hdigit] at hd
  · rintro ⟨-, place, number, hnumber, hnumberKind, hstop⟩
    obtain ⟨front, _, _, rfl, -⟩ := hnumber.exists_first_of_stop hstop
    obtain ⟨w, hw, hdigit⟩ := hnumber.shape.isDigit_getLast? hnumberKind
    exact ⟨w, by simp [List.getLast?_append, Option.mem_def.mp hw],
      Text.isWordChar_of_isDigit hdigit⟩

/-- Between a digit and the keyword of a reference that follows it a reference is read. -/
theorem tokenAt_behind_digit :
    TokenAt "5src[A]".toList 1 (.ofReference ⟨.source, "A".toList⟩) :=
  ⟨[⟨[], .plain .number "5".toList⟩], ⟨[], _⟩, [], by decide +kernel, rfl, rfl⟩

/-- A word runs into a reference behind a number. -/
theorem TokenAt.followsWord_behind_number :
    FollowsWord "5src[A]".toList 1 ↔ ∃ place number, TokenAt "5src[A]".toList place number ∧
      number.kind = .number ∧ place + number.raw.length = 1 := by
  have hiff := tokenAt_behind_digit.followsWord_iff (by decide)
  rwa [and_iff_right (by decide)] at hiff

/-- Not every reference and every number is read where no word runs into it. -/
theorem exists_token_inside_word :
    ¬ ∀ t start token, TokenAt t start token →
      token.kind ∈ [TokenKind.sourceRef, .selfRef, .number] → ¬ FollowsWord t start := by
  intro h
  exact h _ 1 _ tokenAt_behind_digit (by decide) ⟨'5', by decide, by decide⟩

end Rowscript
