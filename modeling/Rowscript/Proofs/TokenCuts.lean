import Rowscript.Proofs.TokenSequences

/-!
# Cutting a text behind a token

What the scanner finds at a place depends on what follows: a quote opens a string only if
another quote follows, and a formula reaches up to a character that ends it. But a token that
lies in a beginning of the text is found there when the rest is cut off, and cutting a text off
brings out no token that was not there. So a text that is cut behind some of its tokens has
these tokens.
-/

namespace Rowscript

namespace Text

/-- A text begins with another one where that one can be taken off. -/
theorem startsWith_iff {beginning t : Text} :
    startsWith beginning t = true ↔ beginning <+: t := by
  rw [startsWith, Option.isSome_iff_exists]
  exact exists_congr fun rest => after?_eq_some_iff.trans eq_comm

/-- A beginning of a text that is not longer than a part in front is a beginning of that part. -/
theorem isPrefix_of_append {beginning s t : Text} (h : beginning <+: s ++ t)
    (hle : beginning.length ≤ s.length) : beginning <+: s :=
  List.prefix_of_prefix_length_le h (List.prefix_append s t) hle

/-- The characters of a kind at the beginning of a text are still there when more follows. -/
theorem takeWhile_isPrefix_append (p : Char → Bool) (s t : Text) :
    s.takeWhile p <+: (s ++ t).takeWhile p := by
  rw [List.takeWhile_append]
  split
  · exact (List.takeWhile_prefix p).trans (List.prefix_append s _)
  · exact List.prefix_rfl

/-- The characters of a kind at the beginning of a text are not cut off when a part in front is
kept that is as long. -/
theorem takeWhile_of_append {p : Char → Bool} {s t : Text}
    (hle : ((s ++ t).takeWhile p).length ≤ s.length) : s.takeWhile p = (s ++ t).takeWhile p := by
  refine (takeWhile_isPrefix_append p s t).eq_of_length_le ?_
  rw [List.takeWhile_append] at hle ⊢
  split
  · next hall =>
    rw [if_pos hall, List.length_append] at hle
    rw [List.length_append, hall]
    omega
  · exact Nat.le_refl _

/-- What follows these characters is then cut off where the text is. -/
theorem dropWhile_of_append {p : Char → Bool} {s t : Text}
    (hle : ((s ++ t).takeWhile p).length ≤ s.length) :
    (s ++ t).dropWhile p = s.dropWhile p ++ t := by
  have hsplit : s.takeWhile p ++ (s ++ t).dropWhile p =
      s.takeWhile p ++ (s.dropWhile p ++ t) := by
    rw [takeWhile_of_append hle, List.takeWhile_append_dropWhile, ← takeWhile_of_append hle,
      ← List.append_assoc, List.takeWhile_append_dropWhile]
  exact List.append_cancel_left hsplit

/-- A text that is cut in the blanks at its end is trimmed to the same. -/
theorem trimRight_take {t : Text} {n : Nat} (hle : (trimRight t).length ≤ n) :
    trimRight (t.take n) = trimRight t := by
  obtain ⟨blanks, hblank, hsplit⟩ := exists_trimRight_append t
  have htrimmed : trimRight (trimRight t) = trimRight t := List.rdropWhile_idempotent isBlank t
  have hcut : ∀ c ∈ blanks.take (n - (trimRight t).length), isBlank c = true :=
    fun c hc => hblank c (List.mem_of_mem_take hc)
  conv_lhs => rw [hsplit, List.take_append, List.take_of_length_le hle]
  rw [trimRight_append, if_pos (trimRight_eq_nil_iff.mpr hcut), htrimmed]

end Text

namespace Token

/-- A reader of tokens looks at a beginning of the text only. It finds something where it finds
something in a beginning of the text, and a token that it finds in a beginning of the text is
the one that it finds with the rest cut off. -/
structure Local (read : Text → Option Token) : Prop where
  persists : ∀ s t, (read s).isSome = true → (read (s ++ t)).isSome = true
  cut : ∀ s t token, read (s ++ t) = some token → token.raw.length ≤ s.length →
    read s = some token

namespace Local

variable {read read' : Text → Option Token}

/-- Where a local reader finds nothing, it finds nothing with the rest cut off. -/
theorem eq_none (h : Local read) {s t : Text} (hnone : read (s ++ t) = none) : read s = none := by
  by_contra hsome
  have hpersists := h.persists s t (Option.isSome_iff_ne_none.mpr hsome)
  simp [hnone] at hpersists

/-- One local reader after another one is a local reader. -/
theorem or (h : Local read) (h' : Local read') : Local fun t => (read t).or (read' t) where
  persists s t hsome := by
    simp only [Option.isSome_or, Bool.or_eq_true] at hsome ⊢
    exact hsome.imp (h.persists s t) (h'.persists s t)
  cut s t token hread hle := by
    rcases Option.or_eq_some_iff.mp hread with hread | ⟨hnone, hread⟩
    · exact Option.or_eq_some_iff.mpr (.inl (h.cut s t token hread hle))
    · exact Option.or_eq_some_iff.mpr (.inr ⟨h.eq_none hnone, h'.cut s t token hread hle⟩)

/-- A local reader that is used under a condition only is local. -/
theorem guarded (h : Local read) (allowed : Bool) :
    Local fun t => if allowed then read t else none := by
  cases allowed with
  | true => simpa using h
  | false => exact ⟨by simp, by simp⟩

/-- A reader that reads every token of its own again, whatever follows it, is local. -/
theorem of_again (hwritten : ∀ t token, read t = some token → token.raw <+: t)
    (hagain : ∀ t token rest, read t = some token → read (token.raw ++ rest) = some token) :
    Local read where
  persists s t hsome := by
    obtain ⟨token, hread⟩ := Option.isSome_iff_exists.mp hsome
    obtain ⟨rest, rfl⟩ := hwritten s token hread
    rw [List.append_assoc, hagain _ token (rest ++ t) hread]
    rfl
  cut s t token hread hle := by
    obtain ⟨rest, rfl⟩ := Text.isPrefix_of_append (hwritten _ token hread) hle
    exact hagain _ token rest hread

end Local

/-- A reference ends with its bracket. -/
theorem local_reference? : Local reference? := by
  refine .of_again (fun t token h => (shape_of_reference? h).2) fun t token rest h => ?_
  simp only [reference?, Option.map_eq_some_iff] at h
  obtain ⟨⟨r, _⟩, hscan, rfl⟩ := h
  rw [raw_ofReference, reference?_render_append (Reference.wellFormed_of_scan? hscan)]

/-- A string ends with its second quote. -/
theorem local_string? : Local string? := by
  refine .of_again (fun t token h => (shape_of_string? h).2) fun t token rest h => ?_
  have hkind := kind_of_string? h
  cases (shape_of_string? h).1 with
  | @string value hvalue =>
    have hraw : '"' :: value ++ ['"'] ++ rest = '"' :: (value ++ '"' :: rest) := by simp
    rw [hraw, string?_append hvalue]
  | reference r _ => rcases kind_ofReference r with h | h <;> simp [h] at hkind
  | _ => nomatch hkind

/-- The mark between alternatives is as long as it is. -/
theorem local_or? : Local or? := by
  refine .of_again (fun t token h => (shape_of_or? h).2) fun t token rest h => ?_
  simp only [or?, Option.ite_none_right_eq_some, Option.some.injEq] at h
  obtain ⟨-, rfl⟩ := h
  rfl

/-- An operator is the first one whose symbol is written. -/
theorem local_operator? : Local operator? where
  persists s t hsome := by
    simp only [operator?, Option.isSome_map, List.find?_isSome, Text.startsWith_iff] at hsome ⊢
    obtain ⟨op, hop, hstart⟩ := hsome
    exact ⟨op, hop, hstart.trans (List.prefix_append s t)⟩
  cut s t token hread hle := by
    simp only [operator?, Option.map_eq_some_iff] at hread ⊢
    obtain ⟨op, hfind, rfl⟩ := hread
    obtain ⟨hstart, front, back, hall, hearlier⟩ := List.find?_eq_some_iff_append.mp hfind
    refine ⟨op, List.find?_eq_some_iff_append.mpr ⟨?_, front, back, hall, ?_⟩, rfl⟩
    · rw [Text.startsWith_iff] at hstart ⊢
      exact Text.isPrefix_of_append hstart hle
    · intro earlier hmem
      have hnot := hearlier earlier hmem
      rw [Bool.not_eq_true', ← Bool.not_eq_true, Text.startsWith_iff] at hnot ⊢
      exact fun hwritten => hnot (List.IsPrefix.trans hwritten (List.prefix_append s t))

/-- A formula reaches up to the first character that belongs to none. -/
theorem local_formula? : Local formula? where
  persists s t hsome := by
    obtain ⟨token, hread⟩ := Option.isSome_iff_exists.mp hsome
    obtain ⟨hshape, rest, rfl⟩ := shape_of_formula? hread
    obtain ⟨body, rfl, hne, hbody⟩ := hshape.eq_formula (kind_of_formula? hread)
    simpa [plain] using isSome_formula? hne hbody (rest ++ t)
  cut s t token hread hle := by
    cases s with
    | nil =>
      have hne := raw_ne_nil_of_formula? hread
      exact absurd (List.length_eq_zero_iff.mp (Nat.le_zero.mp hle)) hne
    | cons c s =>
      by_cases hc : c = '='
      · subst hc
        simp only [List.cons_append, formula?, Option.ite_none_left_eq_some,
          Option.some.injEq] at hread ⊢
        obtain ⟨hne, rfl⟩ := hread
        have hbody : s.takeWhile isFormulaChar = (s ++ t).takeWhile isFormulaChar :=
          Text.takeWhile_of_append (by simpa [plain] using hle)
        exact ⟨hbody ▸ hne, by rw [hbody]⟩
      · rw [List.cons_append, formula?_cons_eq_none hc] at hread
        exact absurd hread (by simp)

/-- The token of a number whose whole part is followed by a text: a point or a comma with digits
behind it belongs to the number. -/
def numberToken (whole : Text) : Text → Token
  | [] => plain .number whole
  | mark :: rest =>
    if (mark = '.' || mark = ',') && rest.takeWhile Text.isDigit ≠ [] then
      plain .number (whole ++ mark :: rest.takeWhile Text.isDigit)
    else plain .number whole

/-- A number is its whole part with what belongs to it. -/
theorem number?_eq (t : Text) :
    number? t = if t.takeWhile Text.isDigit = [] then none
      else some (numberToken (t.takeWhile Text.isDigit) (t.dropWhile Text.isDigit)) := by
  rw [number?]
  split
  · rfl
  · cases t.dropWhile Text.isDigit with
    | nil => rfl
    | cons mark rest =>
      simp only [numberToken]
      split <;> rfl

/-- A number is at least as long as its whole part. -/
theorem length_le_numberToken (whole t : Text) :
    whole.length ≤ (numberToken whole t).raw.length := by
  cases t with
  | nil => exact Nat.le_refl _
  | cons mark rest =>
    rw [numberToken]
    split <;> simp [plain]

/-- The fraction of a number does not change when the text is cut behind it. -/
theorem numberToken_append {whole s t : Text}
    (hle : (numberToken whole (s ++ t)).raw.length ≤ (whole ++ s).length) :
    numberToken whole s = numberToken whole (s ++ t) := by
  cases s with
  | nil =>
    -- No part of the text is left for a fraction.
    cases t with
    | nil => rfl
    | cons mark rest =>
      rw [List.nil_append, numberToken] at hle ⊢
      split
      · next hfraction =>
        rw [if_pos hfraction] at hle
        simp only [plain, List.length_append, List.length_cons, List.append_nil] at hle
        omega
      · rfl
  | cons mark rest =>
    rw [List.cons_append, numberToken] at hle
    rw [List.cons_append, numberToken, numberToken]
    split at hle
    · next hfraction =>
      have hcut : rest.takeWhile Text.isDigit = (rest ++ t).takeWhile Text.isDigit := by
        simp only [plain, List.length_append, List.length_cons] at hle
        exact Text.takeWhile_of_append (by omega)
      rw [hcut]
    · next hnone =>
      rw [if_neg hnone, if_neg]
      simp only [Bool.and_eq_true, decide_eq_true_eq, not_and] at hnone ⊢
      intro hmark hsome
      exact hnone hmark ((Text.takeWhile_isPrefix_append Text.isDigit rest t).ne_nil hsome)

/-- A number reaches up to the last digit of its whole part or of its fraction. -/
theorem local_number? : Local number? where
  persists s t hsome := by
    cases s with
    | nil => simp [number?] at hsome
    | cons c s =>
      by_cases hc : Text.isDigit c = true
      · exact isSome_number? hc (s ++ t)
      · rw [number?_cons_eq_none (by simpa using hc)] at hsome
        exact absurd hsome (by simp)
  cut s t token hread hle := by
    rw [number?_eq, Option.ite_none_left_eq_some, Option.some.injEq] at hread ⊢
    obtain ⟨hne, rfl⟩ := hread
    have hwhole := (length_le_numberToken _ _).trans hle
    rw [← Text.takeWhile_of_append hwhole] at hne
    rw [Text.dropWhile_of_append hwhole, ← Text.takeWhile_of_append hwhole] at hle ⊢
    refine ⟨hne, numberToken_append ?_⟩
    rwa [List.takeWhile_append_dropWhile]

/-- The scanner is local, because all readers are. -/
theorem local_scan? (before : Option Char) : Local (scan? before) :=
  (local_reference?.guarded _).or <| local_operator?.or <| local_formula?.or <|
    local_string?.or <| (local_number?.guarded _).or local_or?

/-- A token that is no reference and no number does not begin like one. -/
theorem StandsAt.exists_eq_cons {before : Option Char} {t : Text} {token : Token}
    (h : StandsAt before t token) (hword : token.kind.beginsWord = false) :
    ∃ c rest, t = c :: rest ∧ c ≠ 's' ∧ Text.isDigit c = false := by
  obtain ⟨hshape, hkind, -, rest, rfl⟩ := h
  cases hshape with
  | reference r _ =>
    rcases kind_ofReference r with hr | hr <;> simp [hr, TokenKind.beginsWord] at hword
  | operator op => cases op <;> exact ⟨_, _, rfl, by decide, by decide⟩
  | formula _ _ => exact ⟨_, _, rfl, by decide, by decide⟩
  | string _ => exact ⟨_, _, rfl, by decide, by decide⟩
  | whole _ _ => simp [plain, TokenKind.beginsWord] at hword
  | fraction _ _ _ _ _ => simp [plain, TokenKind.beginsWord] at hword
  | or => exact ⟨_, _, rfl, by decide, by decide⟩
  | text raw => exact absurd rfl hkind

/-- A token that is found behind a character is also found where nothing stands before it. -/
theorem scan?_none_of_scan? {before : Option Char} {t : Text} {token : Token}
    (h : scan? before t = some token) : scan? none t = some token := by
  by_cases hstart : startsWord before = true
  · have hnone : startsWord none = true := rfl
    simpa only [scan?, hstart, hnone] using h
  · have hstands := standsAt_of_scan? h
    have hword : token.kind.beginsWord = false := by
      rw [← Bool.not_eq_true]
      exact fun hbegins => hstart (hstands.beginsWord hbegins)
    obtain ⟨c, rest, rfl, hc, hdigit⟩ := hstands.exists_eq_cons hword
    rw [← h]
    simp [scan?, reference?_cons_eq_none hc, number?_cons_eq_none hdigit]

/-- A span of plain text that ends in front of a character ends in front of a token, which does not
begin with a blank. -/
theorem stop_of_plainTail {before d : Char} {t rest : Text}
    (h : t = plainTail before t ++ d :: rest) :
    Text.isBlank d = false ∧
      (scan? (before :: plainTail before t).getLast? (d :: rest)).isSome = true := by
  induction t generalizing before with
  | nil => simp at h
  | cons c t ih =>
    rw [plainTail] at h ⊢
    split at h
    · next hstop =>
      rw [if_pos hstop]
      obtain ⟨rfl, rfl⟩ := List.cons.inj h
      rw [Bool.and_eq_true, Bool.not_eq_true'] at hstop
      exact hstop
    · next hstop =>
      rw [if_neg hstop]
      exact ih (List.cons.inj h).2

/-- A span of plain text ends at the same place when the text is cut behind the token that
ends the span, or at the end of the cut text. -/
theorem plainTail_take {before : Char} {s t : Text}
    (hstop : ∀ d q, s = plainTail before (s ++ t) ++ d :: q → first d q = first d (q ++ t)) :
    plainTail before s = (plainTail before (s ++ t)).take s.length := by
  induction s generalizing before with
  | nil => rfl
  | cons c s ih =>
    by_cases hscan :
        (!Text.isBlank c && (scan? (some before) (c :: (s ++ t))).isSome) = true
    · have hspan : plainTail before (c :: s ++ t) = [] := by
        rw [List.cons_append, plainTail, if_pos hscan]
      rw [Bool.and_eq_true] at hscan
      obtain ⟨token, hfound⟩ := Option.isSome_iff_exists.mp hscan.2
      have hfirst : first c (s ++ t) = token := by
        rw [first, scan?_none_of_scan? hfound, Option.getD_some]
      have hfits : token.raw.length ≤ (c :: s).length := by
        rw [← hfirst, ← hstop c s (by rw [hspan]; rfl)]
        exact (shape_first c s).2.length_le
      have hcut := (local_scan? (some before)).cut (c :: s) t token hfound hfits
      rw [hspan, plainTail, if_pos (by simp [hscan.1, hcut]), List.take_nil]
    · have hcut : ¬ (!Text.isBlank c && (scan? (some before) (c :: s)).isSome) = true := by
        rw [Bool.and_eq_true] at hscan ⊢
        exact fun h => hscan ⟨h.1, (local_scan? (some before)).persists (c :: s) t h.2⟩
      have hspan : plainTail before (c :: s ++ t) = c :: plainTail c (s ++ t) := by
        rw [List.cons_append, plainTail, if_neg hscan]
      rw [hspan] at hstop
      rw [hspan, plainTail, if_neg hcut, List.length_cons, List.take_succ_cons,
        ih fun d q hs => hstop d q (by rw [List.cons_append, ← hs])]

/-- The first token of a text that is cut behind it is still its first token, if the one that
comes next does not change either. -/
theorem first_append {c : Char} {s t : Text}
    (hfits : (first c (s ++ t)).raw.length ≤ (c :: s).length)
    (hnext : ∀ d q, Text.trimLeft ((c :: s).drop (first c (s ++ t)).raw.length) = d :: q →
      first d q = first d (q ++ t)) : first c s = first c (s ++ t) := by
  cases hscan : scan? none (c :: (s ++ t)) with
  | some token =>
    have hfirst : first c (s ++ t) = token := by rw [first, hscan, Option.getD_some]
    rw [hfirst] at hfits ⊢
    have hcut := (local_scan? none).cut (c :: s) t token hscan hfits
    rw [first, hcut, Option.getD_some]
  | none =>
    have hcut : scan? none (c :: s) = none := (local_scan? none).eq_none hscan
    have hraw : (first c (s ++ t)).raw = Text.trimRight (c :: plainTail c (s ++ t)) := by
      rw [first, hscan]
      rfl
    rw [hraw] at hfits hnext
    have hstop : ∀ d q, s = plainTail c (s ++ t) ++ d :: q → first d q = first d (q ++ t) := by
      intro d q hs
      apply hnext
      have hd : Text.isBlank d = false :=
        (stop_of_plainTail (by rw [← List.cons_append, ← List.append_assoc, ← hs])).1
      -- Between the token and the end of its span there are blanks only.
      obtain ⟨blanks, hblank, hspan⟩ := Text.exists_trimRight_append (c :: plainTail c (s ++ t))
      have htext : c :: s = Text.trimRight (c :: plainTail c (s ++ t)) ++ (blanks ++ d :: q) := by
        rw [← List.append_assoc, ← hspan, List.cons_append, ← hs]
      rw [htext, List.drop_left, Text.trimLeft, List.dropWhile_append_of_pos hblank]
      exact Text.trimLeft_cons hd q
    have htrim := Text.trimRight_take hfits
    rw [List.length_cons, List.take_succ_cons, ← plainTail_take hstop] at htrim
    rw [first, first, hscan, hcut, htrim]

end Token

/-- A token that is cut well does not begin with a blank. -/
theorem Lexeme.WellCut.exists_raw_eq_cons {l : Lexeme} {following : Text}
    (h : l.WellCut following) : ∃ c tail, l.token.raw = c :: tail ∧ Text.isBlank c = false := by
  obtain ⟨c, tail, hraw⟩ := List.exists_cons_of_ne_nil h.raw_ne_nil
  exact ⟨c, tail, hraw, Text.isBlank_eq_false_of_trim (hraw ▸ h.trim_raw)⟩

/-- Two texts with the same first lexeme have the same first token, whatever follows it in
them. -/
theorem first_eq_of_lexemes {s t : Text} {front back : List Lexeme} {c : Char} {rest : Text}
    (hs : lexemes s = front) (hst : lexemes (s ++ t) = front ++ back)
    (htrim : Text.trimLeft s = c :: rest) : Token.first c rest = Token.first c (rest ++ t) := by
  have htrims : Text.trimLeft (s ++ t) = c :: (rest ++ t) := by
    unfold Text.trimLeft at htrim ⊢
    simp [List.dropWhile_append, htrim]
  rw [lexemes_of_trimLeft_eq_cons htrim] at hs
  rw [lexemes_of_trimLeft_eq_cons htrims, ← hs] at hst
  exact (congrArg Lexeme.token (List.cons.inj hst).1).symm

/-- The lexemes that a text has in front of a place are the lexemes of the text that is cut
there. -/
theorem lexemes_of_append {s t gap : Text} {front back : List Lexeme}
    (hlexemes : lexemes (s ++ t) = front ++ back) (hs : s = front.flatMap Lexeme.render ++ gap)
    (hgap : ∀ c ∈ gap, Text.isBlank c = true) : lexemes s = front := by
  induction front generalizing s with
  | nil =>
    have hblank : Text.trimLeft s = [] := by
      rw [hs]
      exact List.dropWhile_eq_nil_iff.mpr hgap
    exact lexemes_of_trimLeft_eq_nil hblank
  | cons l front ih =>
    have hhead : lexemes (s ++ t) = [] ++ l :: (front ++ back) := hlexemes
    obtain ⟨following, hsplit, hback, hcut⟩ := exists_wellCut_of_lexemes_eq hhead
    obtain ⟨c, tail, hraw, hc⟩ := hcut.exists_raw_eq_cons
    -- What is left of the cut text behind the lexeme has the lexemes that follow it.
    obtain ⟨left, hleft⟩ : ∃ left, left = front.flatMap Lexeme.render ++ gap := ⟨_, rfl⟩
    rw [List.flatMap_cons, List.append_assoc, ← hleft] at hs
    have hfollowing : following = left ++ t := by
      rw [hs, List.flatMap_nil, List.nil_append, List.append_assoc] at hsplit
      exact (List.append_cancel_left hsplit).symm
    rw [hfollowing] at hback
    have hrest := ih hback hleft
    obtain ⟨htrim, hblanks⟩ := Lexeme.trimLeft_render_append hcut.blanks hraw hc left
    obtain ⟨htrims, -⟩ := Lexeme.trimLeft_render_append hcut.blanks hraw hc (left ++ t)
    have hdrop : (c :: (tail ++ left)).drop l.token.raw.length = left := by
      rw [hraw, ← List.cons_append, List.drop_left]
    have hfirst : Token.first c (tail ++ left ++ t) = l.token := by
      rw [hs, List.append_assoc, lexemes_of_trimLeft_eq_cons htrims] at hlexemes
      rw [List.append_assoc]
      exact congrArg Lexeme.token (List.cons.inj hlexemes).1
    have hsame : Token.first c (tail ++ left) = l.token := by
      rw [← hfirst]
      apply Token.first_append
      · rw [hfirst, hraw]
        simp
      · intro d q hnext
        rw [hfirst, hdrop] at hnext
        exact first_eq_of_lexemes hrest hback hnext
    rw [hs, lexemes_of_trimLeft_eq_cons htrim, hblanks, hsame, hdrop, hrest]

/-- A text without the blanks at its end is its lexemes one after the other. -/
theorem trimRight_eq_flatMap_render (t : Text) :
    Text.trimRight t = (lexemes t).flatMap Lexeme.render := by
  obtain ⟨blanks, hblank, hsplit⟩ := exists_lexemes_append t
  have hlast : Text.trimRight ((lexemes t).flatMap Lexeme.render) =
      (lexemes t).flatMap Lexeme.render := by
    rcases List.eq_nil_or_concat' (lexemes t) with hnil | ⟨front, l, hfront⟩
    · rw [hnil]
      rfl
    · obtain ⟨_, -, -, hcut⟩ := exists_wellCut_of_lexemes_eq hfront
      have hraw : Text.trimRight l.token.raw = l.token.raw := by
        rw [← hcut.trim_raw, Text.trimRight_trim]
      rw [hfront, List.flatMap_append, List.flatMap_singleton, Lexeme.render,
        ← List.append_assoc, Text.trimRight_append, hraw, if_neg hcut.raw_ne_nil]
  conv_lhs => rw [hsplit]
  rw [Text.trimRight_append, if_pos (Text.trimRight_eq_nil_iff.mpr hblank), hlast]

/-- Blanks at the end of a text make no difference to its lexemes. -/
theorem lexemes_trimRight (t : Text) : lexemes (Text.trimRight t) = lexemes t := by
  obtain ⟨blanks, -, hsplit⟩ := Text.exists_trimRight_append t
  have hall : lexemes (Text.trimRight t ++ blanks) = lexemes t ++ [] := by
    rw [← hsplit, List.append_nil]
  have hcut : Text.trimRight t = (lexemes t).flatMap Lexeme.render ++ [] := by
    rw [List.append_nil, trimRight_eq_flatMap_render]
  exact lexemes_of_append hall hcut (by simp)

/-- Blanks around a text make no difference to its tokens. -/
theorem tokenize_trim (t : Text) : tokenize (Text.trim t) = tokenize t := by
  rw [Text.trim, tokenize, lexemes_trimRight, ← tokenize]
  cases htrim : Text.trimLeft t with
  | nil => rw [tokenize, tokenize, lexemes_of_trimLeft_eq_nil htrim, lexemes_of_trimLeft_eq_nil rfl]
  | cons c rest =>
    have hagain : Text.trimLeft (c :: rest) = c :: rest :=
      Text.trimLeft_cons (Text.isBlank_eq_false_of_trimLeft htrim) rest
    rw [tokenize, tokenize, lexemes_of_trimLeft_eq_cons htrim, lexemes_of_trimLeft_eq_cons hagain]
    rfl

end Rowscript
