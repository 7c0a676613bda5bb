import Rowscript.Proofs.Tokenization

/-!
# Tokens with blanks between them

A token other than plain text is found again wherever it is written at the end of a text or in
front of a blank, whatever is written inside it. So tokens that are written one after the other
with blanks between them are read as these tokens: column names and strings may hold operators
and digits, and formulas may hold the signs of comparisons.
-/

namespace Rowscript

/-- A text is empty or begins with a blank, so that no token in front of it goes on in it. -/
def Text.BeginsBlank (t : Text) : Prop := ∀ c ∈ t.head?, isBlank c = true

/-- Nothing goes on in the empty text. -/
theorem Text.beginsBlank_nil : BeginsBlank [] := by simp [BeginsBlank]

/-- A space is a blank. -/
theorem Text.beginsBlank_space (t : Text) : BeginsBlank (' ' :: t) := by
  intro c hc
  obtain rfl := Option.some.inj hc
  decide

namespace Token

/-- No reference begins with another character than the first one of its keyword. -/
theorem reference?_cons_eq_none {c : Char} (hc : c ≠ 's') (rest : Text) :
    reference? (c :: rest) = none := by
  simp [reference?, Reference.scan?, Reference.scanFrom?, Origin.opening, Text.after?, hc.symm]

/-- No operator begins with another character than the first one of its symbol. -/
theorem operator?_cons_eq_none {c : Char} (hc : ∀ op : Operator, op.symbol.head? ≠ some c)
    (rest : Text) : operator? (c :: rest) = none := by
  rw [operator?, Option.map_eq_none_iff, List.find?_eq_none]
  intro op _ hstart
  obtain ⟨tail, htail⟩ := Option.isSome_iff_exists.mp hstart
  have hhead := congrArg List.head? (Text.eq_append_of_after? htail)
  have hsymbol : op.symbol ≠ [] := by cases op <;> decide
  rw [List.head?_cons, List.head?_append_of_ne_nil _ hsymbol] at hhead
  exact hc op hhead.symm

/-- No formula begins with another character than an equals sign. -/
theorem formula?_cons_eq_none {c : Char} (hc : c ≠ '=') (rest : Text) :
    formula? (c :: rest) = none := by
  simp [formula?, hc]

/-- No string begins with another character than a quote. -/
theorem string?_cons_eq_none {c : Char} (hc : c ≠ '"') (rest : Text) :
    string? (c :: rest) = none := by
  simp [string?, hc]

/-- No number begins with another character than a digit. -/
theorem number?_cons_eq_none {c : Char} (hc : Text.isDigit c = false) (rest : Text) :
    number? (c :: rest) = none := by
  simp [number?, hc]

/-- A reference is read again, whatever follows it. -/
theorem reference?_render_append {r : Reference} (hr : r.WellFormed) (rest : Text) :
    reference? (r.render ++ rest) = some (ofReference r) := by
  rw [reference?, Reference.scan?_render_append hr]
  rfl

/-- An operator is read again in front of a blank. -/
theorem operator?_symbol_append (op : Operator) {rest : Text} (hrest : rest.BeginsBlank) :
    operator? (op.symbol ++ rest) = some (plain .operator op.symbol) := by
  -- Only an equals sign would make one operator of another.
  have hhead : Text.after? ['='] rest = none := by
    cases rest with
    | nil => rfl
    | cons c rest =>
      have hc : c ≠ '=' := by
        rintro rfl
        exact absurd (hrest '=' rfl) (by decide)
      simp [Text.after?, hc.symm]
  cases op <;>
    simp [operator?, Operator.all, Operator.symbol, Text.startsWith, Text.after?, hhead]

/-- A formula is read again in front of a blank. -/
theorem formula?_append {body rest : Text} (hne : body ≠ [])
    (hbody : ∀ c ∈ body, isFormulaChar c = true) (hrest : rest.BeginsBlank) :
    formula? ('=' :: (body ++ rest)) = some (plain .formula ('=' :: body)) := by
  have htail : rest.takeWhile isFormulaChar = [] := by
    cases rest with
    | nil => rfl
    | cons c rest =>
      have hc : isFormulaChar c = false := by
        have hblank : Text.isBlank c = true := hrest c rfl
        simp [isFormulaChar, hblank]
      simp [hc]
  simp [formula?, List.takeWhile_append_of_pos hbody, htail, hne]

/-- A string is read again, whatever follows it. -/
theorem string?_append {value : Text} (hvalue : '"' ∉ value) (rest : Text) :
    string? ('"' :: (value ++ '"' :: rest)) = some ⟨.string, value, '"' :: value ++ ['"']⟩ := by
  have hinside : ∀ c ∈ value, decide (c ≠ '"') = true := by
    intro c hc
    refine decide_eq_true ?_
    rintro rfl
    exact hvalue hc
  simp only [string?, List.takeWhile_append_of_pos hinside, List.dropWhile_append_of_pos hinside]
  simp

/-- Digits are read up to a character that is none. -/
theorem takeWhile_isDigit_append {digits rest : Text}
    (hdigits : ∀ c ∈ digits, Text.isDigit c = true)
    (hrest : ∀ c ∈ rest.head?, Text.isDigit c = false) :
    (digits ++ rest).takeWhile Text.isDigit = digits ∧
      (digits ++ rest).dropWhile Text.isDigit = rest := by
  have hscan := Numeral.scanDigits_append hdigits hrest
  rw [Numeral.scanDigits, List.span_eq_takeWhile_dropWhile] at hscan
  exact Prod.mk.inj hscan

/-- Digits do not go on in a text that begins with a blank. -/
theorem isDigit_eq_false_of_beginsBlank {rest : Text} (hrest : rest.BeginsBlank) :
    ∀ c ∈ rest.head?, Text.isDigit c = false := by
  intro c hc
  by_contra hdigit
  rw [Bool.not_eq_false] at hdigit
  exact absurd (hrest c hc) (by simp [Text.isBlank_of_isDigit hdigit])

/-- Digits are read again in front of a blank. -/
theorem number?_digits_append {digits rest : Text} (hne : digits ≠ [])
    (hdigits : ∀ c ∈ digits, Text.isDigit c = true) (hrest : rest.BeginsBlank) :
    number? (digits ++ rest) = some (plain .number digits) := by
  obtain ⟨htake, hdrop⟩ :=
    takeWhile_isDigit_append hdigits (isDigit_eq_false_of_beginsBlank hrest)
  rw [number?, htake, hdrop, if_neg hne]
  cases rest with
  | nil => rfl
  | cons c rest =>
    have hmark : (c = '.' || c = ',') = false := by
      have hblank : Text.isBlank c = true := hrest c rfl
      simp only [Bool.or_eq_false_iff, decide_eq_false_iff_not]
      constructor
      · rintro rfl
        exact absurd hblank (by decide)
      · rintro rfl
        exact absurd hblank (by decide)
    simp [hmark]

/-- Digits around a point or a comma are read again in front of a blank. -/
theorem number?_fraction_append {whole fraction rest : Text} {mark : Char} (hne : whole ≠ [])
    (hwhole : ∀ c ∈ whole, Text.isDigit c = true) (hmark : mark = '.' ∨ mark = ',')
    (hfraction : ∀ c ∈ fraction, Text.isDigit c = true) (hsome : fraction ≠ [])
    (hrest : rest.BeginsBlank) :
    number? (whole ++ mark :: (fraction ++ rest)) =
      some (plain .number (whole ++ mark :: fraction)) := by
  have hmarkStop : ∀ c ∈ (mark :: (fraction ++ rest)).head?, Text.isDigit c = false := by
    intro c hc
    obtain rfl := Option.some.inj hc
    rcases hmark with rfl | rfl <;> decide
  obtain ⟨htake, hdrop⟩ := takeWhile_isDigit_append hwhole hmarkStop
  have hinside :=
    (takeWhile_isDigit_append hfraction (isDigit_eq_false_of_beginsBlank hrest)).1
  have hpoint : (mark = '.' || mark = ',') = true := by simpa using hmark
  rw [number?, htake, hdrop, if_neg hne]
  simp [hinside, hpoint, hsome]

/-- The first character of digits begins no other token than a number. -/
theorem scan?_of_isDigit {c : Char} (hc : Text.isDigit c = true) (rest : Text) :
    scan? none (c :: rest) = (number? (c :: rest)).or (or? (c :: rest)) := by
  have hne : ∀ d : Char, Text.isDigit d = false → c ≠ d := by
    rintro d hd rfl
    exact absurd hc (by simp [hd])
  have hoperator : ∀ op : Operator, op.symbol.head? ≠ some c := by
    intro op hhead
    obtain ⟨tail, htail⟩ := List.head?_eq_some_iff.mp hhead
    have hdigit : Text.isDigit c = false := by
      cases op <;> obtain ⟨rfl, -⟩ := List.cons.inj htail <;> decide
    exact absurd hc (by simp [hdigit])
  simp only [scan?, reference?_cons_eq_none (hne 's' (by decide)),
    operator?_cons_eq_none hoperator, formula?_cons_eq_none (hne '=' (by decide)),
    string?_cons_eq_none (hne '"' (by decide)), ite_self, Option.none_or]
  rfl

/-- A token other than plain text is found again at the end of a text and in front of a
blank. -/
theorem Shape.scan?_raw_append {token : Token} (h : token.Shape) (hkind : token.kind ≠ .text)
    {rest : Text} (hrest : rest.BeginsBlank) : scan? none (token.raw ++ rest) = some token := by
  cases h with
  | reference r hr =>
    rw [raw_ofReference, scan?, reference?_render_append hr]
    rfl
  | operator op =>
    have hreference : reference? (op.symbol ++ rest) = none := by
      cases op <;> exact reference?_cons_eq_none (by decide) _
    simp only [plain, scan?, hreference, operator?_symbol_append op hrest, ite_self,
      Option.none_or, Option.some_or]
  | @formula body hne hbody =>
    have hoperator : operator? ('=' :: (body ++ rest)) = none := by
      obtain ⟨b, body, rfl⟩ := List.exists_cons_of_ne_nil hne
      have hb : b ≠ '=' := by
        rintro rfl
        exact absurd (hbody '=' List.mem_cons_self) (by decide)
      simp [operator?, Operator.all, Operator.symbol, Text.startsWith, Text.after?, hb.symm]
    simp only [plain, List.cons_append, scan?, reference?_cons_eq_none (by decide : '=' ≠ 's'),
      hoperator, formula?_append hne hbody hrest, ite_self, Option.none_or, Option.some_or]
  | @string value hvalue =>
    have hoperator : ∀ op : Operator, op.symbol.head? ≠ some '"' := by
      intro op
      cases op <;> decide
    have hraw : '"' :: value ++ ['"'] ++ rest = '"' :: (value ++ '"' :: rest) := by simp
    simp only [hraw, scan?, reference?_cons_eq_none (by decide : '"' ≠ 's'),
      operator?_cons_eq_none hoperator, formula?_cons_eq_none (by decide : '"' ≠ '='),
      string?_append hvalue, ite_self, Option.none_or, Option.some_or]
  | @whole digits hne hdigits =>
    have hnumber := number?_digits_append hne hdigits hrest
    obtain ⟨c, digits, rfl⟩ := List.exists_cons_of_ne_nil hne
    rw [plain, List.cons_append, scan?_of_isDigit (hdigits c List.mem_cons_self),
      ← List.cons_append, hnumber]
    rfl
  | @fraction whole fraction mark hne hwhole hmark hfraction hsome =>
    have hnumber := number?_fraction_append hne hwhole hmark hfraction hsome hrest
    obtain ⟨c, whole, rfl⟩ := List.exists_cons_of_ne_nil hne
    have hraw : c :: whole ++ mark :: fraction ++ rest =
        c :: whole ++ mark :: (fraction ++ rest) := by
      simp
    rw [plain, hraw, List.cons_append, scan?_of_isDigit (hwhole c List.mem_cons_self),
      ← List.cons_append, hnumber]
    rfl
  | or =>
    have hoperator : ∀ op : Operator, op.symbol.head? ≠ some '|' := by
      intro op
      cases op <;> decide
    have hdigit : Text.isDigit '|' = false := by decide
    have hraw : (plain .or "||".toList).raw ++ rest = '|' :: '|' :: rest := rfl
    rw [hraw, scan?, reference?_cons_eq_none (by decide : '|' ≠ 's'),
      operator?_cons_eq_none hoperator, formula?_cons_eq_none (by decide : '|' ≠ '='),
      string?_cons_eq_none (by decide : '|' ≠ '"'), number?_cons_eq_none hdigit]
    rfl
  | text raw => exact absurd rfl hkind

end Token

/-- A lexeme is written so that it can be read again: its token is no plain text and has the
form of its kind, and only blanks stand before it. -/
structure Lexeme.Readable (l : Lexeme) : Prop where
  blanks : ∀ c ∈ l.blanks, Text.isBlank c = true
  shape : l.token.Shape
  kind_ne_text : l.token.kind ≠ .text

/-- The token of a lexeme that can be read again does not begin with a blank. -/
theorem Lexeme.Readable.exists_raw_eq_cons {l : Lexeme} (h : l.Readable) :
    ∃ c rest, l.token.raw = c :: rest ∧ Text.isBlank c = false := by
  have htrim := h.shape.trim_raw h.kind_ne_text
  cases hraw : l.token.raw with
  | nil =>
    have hscan := h.shape.scan?_raw_append h.kind_ne_text Text.beginsBlank_nil
    exact absurd hraw (Token.raw_ne_nil_of_scan? hscan)
  | cons c rest =>
    rw [hraw] at htrim
    exact ⟨c, rest, rfl, Text.isBlank_eq_false_of_trim htrim⟩

/-- Where a lexeme is written, its blanks are skipped and its token is left. -/
theorem Lexeme.trimLeft_render_append {l : Lexeme} {c : Char} {tail : Text}
    (hblanks : ∀ d ∈ l.blanks, Text.isBlank d = true) (hraw : l.token.raw = c :: tail)
    (hc : Text.isBlank c = false) (rest : Text) :
    Text.trimLeft (l.render ++ rest) = c :: (tail ++ rest) ∧
      (l.render ++ rest).takeWhile Text.isBlank = l.blanks := by
  rw [Lexeme.render, hraw, List.append_assoc, Text.trimLeft, List.dropWhile_append_of_pos hblanks,
    List.takeWhile_append_of_pos hblanks]
  simp [hc]

/-- A lexeme is read again at the end of a text and in front of a blank. -/
theorem Lexeme.Readable.lexemes_render_append {l : Lexeme} (h : l.Readable) {rest : Text}
    (hrest : rest.BeginsBlank) : lexemes (l.render ++ rest) = l :: lexemes rest := by
  obtain ⟨c, tail, hraw, hc⟩ := h.exists_raw_eq_cons
  have hscan := h.shape.scan?_raw_append h.kind_ne_text hrest
  obtain ⟨htrim, hblanks⟩ := Lexeme.trimLeft_render_append h.blanks hraw hc rest
  have hfirst : Token.first c (tail ++ rest) = l.token := by
    rw [hraw, List.cons_append] at hscan
    rw [Token.first, hscan]
    rfl
  rw [lexemes_of_trimLeft_eq_cons htrim, hblanks, hfirst, hraw, ← List.cons_append,
    List.drop_left]

/-- Lexemes that are written one after the other, all but the first one with a blank before
them, are read again. -/
theorem lexemes_flatMap_render {ls : List Lexeme} (hls : ∀ l ∈ ls, l.Readable)
    (hblanks : ∀ l ∈ ls.tail, l.blanks ≠ []) : lexemes (ls.flatMap Lexeme.render) = ls := by
  induction ls with
  | nil => exact lexemes_of_trimLeft_eq_nil rfl
  | cons l ls ih =>
    have hrest : Text.BeginsBlank (ls.flatMap Lexeme.render) := by
      cases ls with
      | nil => exact Text.beginsBlank_nil
      | cons next ls =>
        obtain ⟨b, blanks, hnext⟩ := List.exists_cons_of_ne_nil (hblanks next (by simp))
        intro c hc
        have hb : b = c := by simpa [Lexeme.render, hnext] using hc
        exact hb ▸ (hls next (by simp)).blanks b (by simp [hnext])
    have hl : l.Readable := hls l List.mem_cons_self
    have htail : ∀ next ∈ ls.tail, next.blanks ≠ [] :=
      fun next hnext => hblanks next (List.mem_of_mem_tail hnext)
    rw [List.flatMap_cons, hl.lexemes_render_append hrest,
      ih (fun next hnext => hls next (List.mem_cons_of_mem l hnext)) htail]

/-- Operators inside a column name and the signs of comparisons inside a formula do not stand
for themselves. -/
example : (tokenize "src[a >= b] <= =IF(1<2)".toList).map Token.raw =
    ["src[a >= b]".toList, "<=".toList, "=IF(1<2)".toList] := by decide +kernel

end Rowscript
