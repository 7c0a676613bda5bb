import Rowscript.Proofs.Balance
import Rowscript.Proofs.TokenPlaces
import Rowscript.Proofs.TokenSequences

/-!
# Joining tokens and reading them again

When the tokens of an instruction are joined, there is one space between two of them, whatever was
there before. Nothing that is read from the joined text is different. A token other than plain text
is found again in front of a space. Plain text could only become something else if a token could
begin inside it now and could not before. But where a token can begin depends on the characters
around the place that are no blanks: on the next bracket, on the next quote, or on characters that
stand side by side, and between those of plain text nothing has been inserted.
-/

namespace Rowscript

namespace Text

/-- The characters of a text that are no blanks. -/
def unspaced (t : Text) : Text := t.filter fun c => !isBlank c

/-- The characters of two texts follow one another. -/
theorem unspaced_append (s t : Text) : unspaced (s ++ t) = unspaced s ++ unspaced t :=
  List.filter_append ..

/-- Nothing is left of blanks. -/
theorem unspaced_of_isBlank {t : Text} (h : ∀ c ∈ t, isBlank c = true) : unspaced t = [] := by
  rw [unspaced, List.filter_eq_nil_iff]
  intro c hc
  simp [h c hc]

/-- Spaces between pieces make no difference to the other characters. -/
theorem unspaced_join (pieces : List Text) :
    unspaced (join [' '] pieces) = unspaced pieces.flatten := by
  induction pieces with
  | nil => rfl
  | cons piece rest ih =>
    cases rest with
    | nil => simp [join]
    | cons next rest =>
      have hspace : unspaced [' '] = [] := by decide
      rw [join, List.intercalate_cons_cons, ← join, unspaced_append, unspaced_append, ih, hspace,
        List.append_nil, ← unspaced_append]
      rfl

/-- Texts that differ in blanks only hold the same other characters. -/
theorem mem_iff_of_unspaced_eq {s t : Text} (h : unspaced s = unspaced t) {c : Char}
    (hc : isBlank c = false) : c ∈ s ↔ c ∈ t := by
  have hleft : ∀ u : Text, c ∈ unspaced u ↔ c ∈ u := by simp [unspaced, hc]
  rw [← hleft s, h, hleft t]

/-- Blanks make no difference to the first bracket. -/
theorem firstBracket?_unspaced (t : Text) : firstBracket? (unspaced t) = firstBracket? t := by
  rw [firstBracket?, firstBracket?, unspaced, List.find?_filter]
  refine congrArg (t.find? ·) (funext fun c => ?_)
  by_cases hc : isBlank c = true
  · have hbracket := ne_bracket_of_isBlank hc
    simp [hc, Reference.isColumnChar, hbracket]
  · simp [hc]

/-- The first bracket of two texts is that of the first one, or else that of the second. -/
theorem firstBracket?_append (s t : Text) :
    firstBracket? (s ++ t) = (firstBracket? s).or (firstBracket? t) :=
  List.find?_append

/-- A text without blanks that begins a text in front of a blank ends before the blank. -/
theorem isPrefix_of_beginsBlank {raw s t : Text} (hraw : ∀ c ∈ raw, isBlank c = false)
    (ht : t.BeginsBlank) (h : raw <+: s ++ t) : raw <+: s := by
  obtain ⟨rest, hrest⟩ := h
  rcases List.append_eq_append_iff.mp hrest with ⟨gap, rfl, -⟩ | ⟨gap, rfl, rfl⟩
  · exact List.prefix_append raw gap
  · cases gap with
    | nil => simp
    | cons c gap =>
      have hblank : isBlank c = true := ht c rfl
      simp [hraw c (by simp)] at hblank

end Text

namespace Token

/-- Where a token stands in a text that goes on with a blank, one also stands when the text goes on
with the same characters and other blanks between them. -/
theorem StandsAt.of_unspaced_eq {before : Option Char} {right s t : Text} {token : Token}
    (h : StandsAt before (right ++ s) token) (hright : right ≠ []) (hs : s.BeginsBlank)
    (hsame : Text.unspaced s = Text.unspaced t) : ∃ other, StandsAt before (right ++ t) other := by
  obtain ⟨hshape, hkind, hword, hwritten⟩ := h
  have hother : token.kind ∉ [TokenKind.sourceRef, .selfRef, .string, .text] →
      ∃ other, StandsAt before (right ++ t) other := fun hplain =>
    ⟨token, hshape, hkind, hword,
      (Text.isPrefix_of_beginsBlank (hshape.isBlank_eq_false hplain) hs hwritten).trans
        (List.prefix_append right t)⟩
  cases hshape with
  | reference r hr =>
    -- The next bracket behind the keyword has to be the same.
    obtain ⟨rest, hrest⟩ := hwritten
    rw [raw_ofReference] at hrest
    have hopening : r.origin.opening <+: right ++ s := by
      rw [← hrest, Reference.render, List.append_assoc, List.append_assoc]
      exact List.prefix_append ..
    obtain ⟨inside, rfl⟩ :=
      Text.isPrefix_of_beginsBlank r.origin.isBlank_of_mem_opening hs hopening
    rw [List.append_assoc] at hrest ⊢
    have hclose := Reference.firstBracket?_of_render hr hrest.symm
    rw [Text.firstBracket?_append, ← Text.firstBracket?_unspaced s, hsame,
      Text.firstBracket?_unspaced, ← Text.firstBracket?_append] at hclose
    obtain ⟨column, rest', hwell, hrender⟩ := Reference.exists_render_append r.origin hclose
    have hkinds : (ofReference ⟨r.origin, column⟩).kind = (ofReference r).kind := by
      rcases r with ⟨_ | _, _⟩ <;> rfl
    exact ⟨ofReference ⟨r.origin, column⟩, .reference _ hwell, hkinds ▸ hkind, hkinds ▸ hword,
      rest', by rw [raw_ofReference, hrender]⟩
  | @string value _ =>
    -- The next quote behind the first one has to be the same.
    obtain ⟨c, inside, rfl⟩ := List.exists_cons_of_ne_nil hright
    obtain ⟨rest, hrest⟩ := hwritten
    simp only [List.cons_append, List.append_assoc, List.cons.injEq, List.nil_append] at hrest
    obtain ⟨rfl, hrest⟩ := hrest
    have hmem : '"' ∈ inside ++ t := by
      have hquote : '"' ∈ inside ++ s := by simp [← hrest]
      rw [List.mem_append] at hquote ⊢
      rwa [← Text.mem_iff_of_unspaced_eq hsame (by decide)]
    obtain ⟨value', rest', hsplit, hvalue'⟩ := List.eq_append_cons_of_mem hmem
    exact ⟨⟨.string, value', '"' :: value' ++ ['"']⟩, .string hvalue', by simp, by
      simp [TokenKind.beginsWord], rest', by simp [hsplit]⟩
  | text raw => exact absurd rfl hkind
  | operator op => exact hother (by simp [plain])
  | formula => exact hother (by simp [plain])
  | whole => exact hother (by simp [plain])
  | fraction => exact hother (by simp [plain])
  | or => exact hother (by simp [plain])

/-- Plain text goes on behind a text in which no token begins but at blanks. -/
theorem plainTail_append {before : Char} {s t : Text}
    (hinside : ∀ left d right, s = left ++ d :: right → Text.isBlank d = false →
      scan? (before :: left).getLast? (d :: right ++ t) = none) :
    plainTail before (s ++ t) = s ++ plainTail ((before :: s).getLast (by simp)) t := by
  induction s generalizing before with
  | nil => rfl
  | cons d s ih =>
    have hstop : (!Text.isBlank d && (scan? (some before) (d :: (s ++ t))).isSome) = false := by
      cases hd : Text.isBlank d with
      | true => rfl
      | false =>
        have hnone : scan? (some before) (d :: (s ++ t)) = none := hinside [] d s rfl hd
        rw [hnone]
        rfl
    have hrest : plainTail d (s ++ t) = s ++ plainTail ((d :: s).getLast (by simp)) t := by
      refine ih fun left e right hs he => ?_
      have hnone := hinside (d :: left) e right (by rw [hs, List.cons_append]) he
      rwa [List.getLast?_cons_cons] at hnone
    rw [List.cons_append, plainTail, hstop, if_neg (by decide), hrest]
    rfl

/-- Plain text in front of a space ends there when another token follows. -/
theorem Shape.plainTail_space {token : Token} (h : token.Shape) (hkind : token.kind ≠ .text)
    {rest : Text} (hrest : rest.BeginsBlank) (before : Char) :
    plainTail before (' ' :: (token.raw ++ rest)) = [' '] := by
  have hreadable : Lexeme.Readable ⟨[], token⟩ := ⟨by simp, h, hkind⟩
  obtain ⟨d, tail, hraw, hd⟩ := hreadable.exists_raw_eq_cons
  have hscan := h.scan?_raw_append hkind hrest
  have hspace : scan? (some ' ') (token.raw ++ rest) = scan? none (token.raw ++ rest) := by
    have hword : startsWord (some ' ') = startsWord none := by decide
    rw [scan?, hword, ← scan?]
  rw [← hspace] at hscan
  change token.raw = d :: tail at hraw
  rw [hraw, List.cons_append] at hscan ⊢
  have hblank : Text.isBlank ' ' = true := by decide
  rw [plainTail, if_neg (by simp [hblank]), plainTail, if_pos (by simp [hd, hscan])]

end Token

/-- Plain text is followed by another token than plain text. -/
theorem kind_ne_text_of_lexemes_eq {t : Text} {l next : Lexeme} {back : List Lexeme}
    (h : lexemes t = l :: next :: back) (hl : l.token.kind = .text) : next.token.kind ≠ .text := by
  obtain ⟨c, rest, following, -, hc, hfirst, hsplit, hback⟩ := exists_first_of_lexemes_eq_cons h
  obtain ⟨d, more, -, hfollowing, hd, hnext, -, -⟩ := exists_first_of_lexemes_eq_cons hback
  have hscan : Token.scan? none (c :: rest) = none :=
    Token.kind_first_eq_text_iff.mp (hfirst ▸ hl)
  have hraw : l.token.raw = Text.trimRight (c :: Token.plainTail c rest) := by
    rw [hfirst, Token.first, hscan]
    rfl
  -- The span of plain text ends with the blanks that were trimmed off.
  obtain ⟨blanks, hblank, hspan⟩ := Text.exists_trimRight_append (c :: Token.plainTail c rest)
  obtain ⟨stop, hstop⟩ := Token.plainTail_isPrefix c rest
  rw [← hstop, ← List.cons_append, hspan, ← hraw, List.append_assoc,
    List.append_cancel_left_eq] at hsplit
  have htrim : Text.trimLeft following = d :: more := by
    rw [hfollowing, Text.trimLeft,
      List.dropWhile_append_of_pos (isBlank_of_mem_lexemes (t := following) (by simp [hback]))]
    simp [hd]
  rw [← hsplit, Text.trimLeft, List.dropWhile_append_of_pos hblank] at htrim
  cases stop with
  | nil => simp at htrim
  | cons e stop =>
    obtain ⟨he, hsome⟩ := Token.stop_of_plainTail hstop.symm
    obtain ⟨token, htoken⟩ := Option.isSome_iff_exists.mp hsome
    obtain ⟨rfl, rfl⟩ : e = d ∧ stop = more := by simpa [he] using htrim
    rw [hnext, Ne, Token.kind_first_eq_text_iff, Token.scan?_none_of_scan? htoken]
    exact Option.some_ne_none token

/-- Joined tokens go on behind the first one with a space, unless it is the last. -/
def joinedTail (tokens : List Token) : Text :=
  if tokens = [] then [] else ' ' :: joinTokens tokens

/-- Tokens are joined one by one. -/
theorem joinTokens_cons (token : Token) (tokens : List Token) :
    joinTokens (token :: tokens) = token.raw ++ joinedTail tokens := by
  cases tokens with
  | nil => simp [joinTokens, joinedTail, Text.join]
  | cons next tokens =>
    simp [joinTokens, joinedTail, Text.join, List.intercalate_cons_cons]

/-- Joined tokens go on behind the first one with a blank. -/
theorem beginsBlank_joinedTail (tokens : List Token) : (joinedTail tokens).BeginsBlank := by
  unfold joinedTail
  split
  · exact Text.beginsBlank_nil
  · exact Text.beginsBlank_space _

/-- Behind the first token the others are read as they are by themselves. -/
theorem tokenize_joinedTail (tokens : List Token) :
    tokenize (joinedTail tokens) = tokenize (joinTokens tokens) := by
  unfold joinedTail
  split
  · next h => rw [h]; rfl
  · rw [← tokenize_trim, ← tokenize_trim (joinTokens tokens), ← List.singleton_append,
      Text.trim_blanks_append (by decide)]

/-- Behind the first token there are the characters of the others, blanks apart. -/
theorem unspaced_joinedTail (tokens : List Token) :
    Text.unspaced (joinedTail tokens) = Text.unspaced (tokens.map Token.raw).flatten := by
  unfold joinedTail
  split
  · next h => rw [h]; rfl
  · have hspace : Text.unspaced [' '] = [] := by decide
    rw [← List.singleton_append, Text.unspaced_append, hspace, List.nil_append, joinTokens,
      Text.unspaced_join]

/-- The characters of lexemes are those of their tokens, blanks apart. -/
theorem unspaced_flatMap_render {ls : List Lexeme}
    (hblanks : ∀ l ∈ ls, ∀ c ∈ l.blanks, Text.isBlank c = true) :
    Text.unspaced (ls.flatMap Lexeme.render) =
      Text.unspaced ((ls.map Lexeme.token).map Token.raw).flatten := by
  induction ls with
  | nil => rfl
  | cons l ls ih =>
    obtain ⟨hfirst, hrest⟩ := List.forall_mem_cons.mp hblanks
    rw [List.flatMap_cons, Lexeme.render, List.map_cons, List.map_cons, List.flatten_cons,
      Text.unspaced_append, Text.unspaced_append, Text.unspaced_append,
      Text.unspaced_of_isBlank hfirst, List.nil_append, ih hrest]

/-- The characters of a text are those of its tokens, blanks apart. -/
theorem unspaced_eq_tokenize (t : Text) :
    Text.unspaced t = Text.unspaced ((tokenize t).map Token.raw).flatten := by
  obtain ⟨tail, htail, ht⟩ := exists_lexemes_append t
  conv_lhs => rw [ht, Text.unspaced_append, Text.unspaced_of_isBlank htail, List.append_nil]
  exact unspaced_flatMap_render fun l hl => isBlank_of_mem_lexemes hl

/-- Plain text that is cut well is read again in front of other tokens that it is joined with, if
what followed it holds the same characters. -/
theorem Lexeme.WellCut.first_joinedTail {l : Lexeme} {following : Text} (h : l.WellCut following)
    (htext : l.token.kind = .text) {c : Char} {tail : Text} (hraw : l.token.raw = c :: tail)
    (hnone : Token.scan? none (c :: tail ++ following) = none) {tokens : List Token}
    (hsame : Text.unspaced (joinedTail tokens) = Text.unspaced following)
    (hnext : ∀ next ∈ tokens.head?, next.Shape ∧ next.kind ≠ .text) :
    Token.first c (tail ++ joinedTail tokens) = l.token := by
  have hrest := beginsBlank_joinedTail tokens
  -- No token begins now where none began before.
  have hstill : ∀ before d (right : Text),
      (∀ token, ¬ Token.StandsAt before (d :: right ++ following) token) →
        Token.scan? before (d :: right ++ joinedTail tokens) = none := by
    intro before d right hnot
    rw [Token.scan?_eq_none_iff]
    intro token hstands
    obtain ⟨other, hother⟩ := hstands.of_unspaced_eq (by simp) hrest hsame
    exact hnot other hother
  have hscan : Token.scan? none (c :: (tail ++ joinedTail tokens)) = none :=
    hstill none c tail (Token.scan?_eq_none_iff.mp hnone)
  have hspan : Token.plainTail c (tail ++ joinedTail tokens) =
      tail ++ Token.plainTail ((c :: tail).getLast (by simp)) (joinedTail tokens) := by
    refine Token.plainTail_append fun left d right hsplit hd => hstill _ d right ?_
    exact h.swallows_nothing htext (c :: left) d right (by rw [hraw, hsplit]; rfl) (by simp) hd
  have hblank : ∀ before, ∀ d ∈ Token.plainTail before (joinedTail tokens),
      Text.isBlank d = true := by
    intro before
    cases tokens with
    | nil => simp [joinedTail, Token.plainTail]
    | cons next tokens =>
      obtain ⟨hshape, hkind⟩ := hnext next rfl
      have hjoined : joinedTail (next :: tokens) = ' ' :: (next.raw ++ joinedTail tokens) := by
        rw [← joinTokens_cons]
        rfl
      rw [hjoined, hshape.plainTail_space hkind (beginsBlank_joinedTail tokens)]
      decide
  have hright : Text.trimRight (c :: tail) = c :: tail := by
    rw [← hraw, ← h.trim_raw, Text.trimRight_trim]
  rw [Token.first, hscan, hspan, ← List.cons_append, Text.trimRight_append,
    if_pos (Text.trimRight_eq_nil_iff.mpr (hblank _)), hright, h.shape.eq_text htext, ← hraw]
  rfl

/-- The first token of a text is read again in front of the others that it is joined with. -/
theorem exists_first_joinedTail {t : Text} {l : Lexeme} {ls : List Lexeme}
    (h : lexemes t = l :: ls) : ∃ c tail, l.token.raw = c :: tail ∧ Text.isBlank c = false ∧
      Token.first c (tail ++ joinedTail (ls.map Lexeme.token)) = l.token := by
  obtain ⟨c, rest, following, ht, hc, hfirst, hsplit, hback⟩ := exists_first_of_lexemes_eq_cons h
  have hfront : lexemes t = [] ++ l :: ls := h
  obtain ⟨text, htext, -, hcut⟩ := exists_wellCut_of_lexemes_eq hfront
  obtain rfl : following = text := by
    rw [ht, hsplit] at htext
    simpa [Lexeme.render] using htext
  obtain ⟨d, tail, hraw, -⟩ := hcut.exists_raw_eq_cons
  obtain ⟨rfl, rfl⟩ : c = d ∧ rest = tail ++ following := by
    rw [hraw] at hsplit
    exact List.cons.inj hsplit
  refine ⟨c, tail, hraw, hc, ?_⟩
  by_cases hkind : l.token.kind = .text
  · have hnone := Token.kind_first_eq_text_iff.mp (hfirst ▸ hkind)
    refine hcut.first_joinedTail hkind hraw hnone ?_ fun next hnext => ?_
    · rw [unspaced_joinedTail, unspaced_eq_tokenize following, tokenize, hback]
    · cases ls with
      | nil => simp at hnext
      | cons other back =>
        obtain rfl := Option.some.inj hnext
        exact ⟨shape_of_mem_lexemes (t := t) (by simp [h]), kind_ne_text_of_lexemes_eq h hkind⟩
  · have hscan := hcut.shape.scan?_raw_append hkind
      (beginsBlank_joinedTail (ls.map Lexeme.token))
    rw [hraw, List.cons_append] at hscan
    rw [Token.first, hscan]
    rfl

/-- Joining the tokens of a text and reading them again gives the same tokens. -/
theorem tokenize_joinTokens_tokenize (t : Text) :
    tokenize (joinTokens (tokenize t)) = tokenize t := by
  -- The induction is on the lexemes; those behind the first one are the lexemes of what follows.
  generalize hls : lexemes t = ls
  induction ls generalizing t with
  | nil =>
    have hnone : tokenize (joinTokens []) = [] := by
      rw [tokenize, lexemes_of_trimLeft_eq_nil rfl, List.map_nil]
    rw [tokenize.eq_def t, hls, List.map_nil, hnone]
  | cons l ls ih =>
    obtain ⟨c, tail, hraw, hc, hagain⟩ := exists_first_joinedTail hls
    obtain ⟨_, _, following, -, -, -, -, hback⟩ := exists_first_of_lexemes_eq_cons hls
    have hrest : tokenize following = ls.map Lexeme.token := by rw [tokenize, hback]
    have hdrop : (c :: (tail ++ joinedTail (ls.map Lexeme.token))).drop l.token.raw.length =
        joinedTail (ls.map Lexeme.token) := by
      rw [hraw, ← List.cons_append, List.drop_left]
    rw [tokenize.eq_def t, hls, List.map_cons, joinTokens_cons, hraw, List.cons_append, tokenize,
      lexemes_of_trimLeft_eq_cons (Text.trimLeft_cons hc _), hagain, hdrop, List.map_cons,
      ← tokenize, tokenize_joinedTail, ← hrest, ih following hback]

/-- Tokens that touch each other are read again when they are set apart. -/
example : joinTokens (tokenize "a!=5src[A]".toList) = "a != 5 src[A]".toList ∧
    tokenize "a != 5 src[A]".toList = tokenize "a!=5src[A]".toList := by
  decide +kernel

end Rowscript
