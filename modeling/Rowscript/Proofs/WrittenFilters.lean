import Rowscript.Proofs.Balance
import Rowscript.Proofs.Reading
import Rowscript.Proofs.TokenSequences

/-!
# Filters as they are written

A filter has a plain way to be written: the sides of a comparison with single spaces around its
operator, a formula by itself, and conditions with the mark for alternatives between them. What
is written in this way is read as what is meant. Column names and strings may hold operators,
quotes and digits, and formulas may compare, because brackets, quotes and blanks keep the tokens
apart, and no part holds a mark for alternatives of its own.
-/

namespace Rowscript

/-- A text holds no mark between alternatives. -/
def Text.Undivided (t : Text) : Prop := ¬ "||".toList <:+: t

instance (t : Text) : Decidable t.Undivided := inferInstanceAs (Decidable (¬ _))

/-- How one side of a comparison is written. -/
inductive WrittenOperand where
  | reference (r : Reference)
  | string (value : Text)
  /-- A number of digits alone. -/
  | whole (digits : Text)
  /-- A number with digits before and after a point or a comma. -/
  | decimal (front : Text) (mark : Char) (fraction : Text)
  /-- A formula, without the equals sign at its beginning. -/
  | formula (body : Text)
  deriving DecidableEq, Repr

namespace WrittenOperand

/-- The text of an operand. -/
def render : WrittenOperand → Text
  | reference r => r.render
  | string value => '"' :: value ++ ['"']
  | whole digits => digits
  | decimal front mark fraction => front ++ mark :: fraction
  | formula body => '=' :: body

/-- The operand that is meant. A number is the one nearest to its digits with a point among
them, whichever mark stands there. -/
def operand : WrittenOperand → Operand
  | reference r => .reference r
  | string value => .string value
  | whole digits => .number (.ofNumeral ⟨false, digits, [], none⟩)
  | decimal front _ fraction => .number (.ofNumeral ⟨false, front, fraction, none⟩)
  | formula body => .formula ('=' :: body)

/-- The operands that can be written by themselves. Column names and strings hold neither
brackets nor a mark between alternatives, and a source column is one of the headers. A formula
is one word with balanced brackets and known references. -/
inductive Canonical (headers : List Text) : WrittenOperand → Prop where
  | reference {r : Reference} (hbrackets : r.WellFormed) (hmark : r.column.Undivided)
      (hknown : r.origin = .source → r.column ∈ headers) : Canonical headers (reference r)
  | string {value : Text} (hquote : '"' ∉ value) (hbrackets : ∀ c ∈ value, c ≠ '[' ∧ c ≠ ']')
      (hmark : value.Undivided) : Canonical headers (string value)
  | whole {digits : Text} (hne : digits ≠ []) (hdigits : ∀ c ∈ digits, Text.isDigit c = true) :
      Canonical headers (whole digits)
  | decimal {front fraction : Text} {mark : Char} (hne : front ≠ [])
      (hfront : ∀ c ∈ front, Text.isDigit c = true) (hmark : mark = '.' ∨ mark = ',')
      (hsome : fraction ≠ []) (hfraction : ∀ c ∈ fraction, Text.isDigit c = true) :
      Canonical headers (decimal front mark fraction)
  | formula {body : Text} (hne : body ≠ []) (hbody : ∀ c ∈ body, Token.isFormulaChar c = true)
      (hbalanced : Text.bracketsBalanced body = true) (hknown : Known headers body) :
      Canonical headers (formula body)

end WrittenOperand

/-- How a condition of a filter is written. -/
inductive WrittenCondition where
  | comparison (left : WrittenOperand) (op : Operator) (right : WrittenOperand)
  /-- A formula, without the equals sign at its beginning. -/
  | formula (body : Text)
  deriving DecidableEq, Repr

namespace WrittenCondition

/-- The text of a condition: a comparison has a space on both sides of its operator. -/
def render : WrittenCondition → Text
  | comparison left op right => left.render ++ ' ' :: (op.symbol ++ ' ' :: right.render)
  | formula body => '=' :: body

/-- The condition that is meant. -/
def condition : WrittenCondition → Condition
  | comparison left op right => .comparison left.operand op.symbol right.operand
  | formula body => .formula ('=' :: body)

/-- The conditions whose operands can be written by themselves. -/
def Canonical (headers : List Text) : WrittenCondition → Prop
  | comparison left _ right => left.Canonical headers ∧ right.Canonical headers
  | formula body => (WrittenOperand.formula body).Canonical headers

end WrittenCondition

/-- The text of an evaluated filter: its conditions with the mark for alternatives between
them. -/
def renderFilter (conditions : List WrittenCondition) : Text :=
  evalMarker ++ Text.join " || ".toList (conditions.map WrittenCondition.render)

section References

/-- The keyword of an origin is followed by its bracket, and holds no bars and brackets
itself. -/
theorem Origin.exists_opening_eq (origin : Origin) :
    ∃ keyword, origin.opening = keyword ++ ['['] ∧
      ∀ c ∈ keyword, c ≠ '|' ∧ c ≠ '[' ∧ c ≠ ']' := by
  cases origin with
  | source => exact ⟨"src".toList, rfl, by decide⟩
  | output => exact ⟨"self".toList, rfl, by decide⟩

/-- A reference that is cut off in front of a blank has been opened and not closed. -/
theorem Reference.WellFormed.exists_opening_append {r : Reference} (hr : r.WellFormed)
    {front rest : Text} {b : Char} (hb : Text.isBlank b = true)
    (hcut : r.render = front ++ b :: rest) :
    ∃ inside, front = r.origin.opening ++ inside ∧ ']' ∉ inside := by
  rw [Reference.render, List.append_assoc] at hcut
  rcases List.append_eq_append_iff.mp hcut with
    ⟨inside, hfront, hinside⟩ | ⟨overlap, hopening, hmore⟩
  · refine ⟨inside, hfront, fun hclose => ?_⟩
    have hbefore : inside <+: r.column ++ [']'] := ⟨b :: rest, hinside.symm⟩
    rcases List.prefix_concat_iff.mp hbefore with hall | hcolumn
    · rw [hall] at hinside
      simp at hinside
    · exact absurd (hr _ (hcolumn.subset hclose)) (by decide)
  · cases overlap with
    | nil => exact ⟨[], by simpa using hopening.symm, by simp⟩
    | cons c overlap =>
      -- The blank would stand in the keyword.
      obtain ⟨rfl, -⟩ := List.cons.inj hmore
      have hmem : b ∈ r.origin.opening := by simp [hopening]
      rw [r.origin.isBlank_of_mem_opening b hmem] at hb
      exact absurd hb (by decide)

/-- No reference begins in a text with balanced brackets and goes on behind a blank that
follows: the bracket that it opens is closed in the text. -/
theorem separate_of_bracketsBalanced {s t : Text} (hs : Text.bracketsBalanced s = true)
    (ht : t.BeginsBlank) : Separate s t := by
  intro right hsuffix hne r rest hscan
  obtain ⟨hr, heq⟩ := Reference.scan?_eq_some_iff.mp hscan
  rcases List.append_eq_append_iff.mp heq with ⟨gap, hgap, hrest⟩ | ⟨gap, _, hrest⟩
  · cases gap with
    | nil => exact ⟨[], by simpa using hrest⟩
    | cons b gap =>
      have hb : Text.isBlank b = true := ht b (by simp [hrest])
      obtain ⟨inside, hright, hclose⟩ := hr.exists_opening_append hb hgap
      obtain ⟨keyword, hkeyword, -⟩ := r.origin.exists_opening_eq
      obtain ⟨before, rfl⟩ := hsuffix
      have hsplit : before ++ right = (before ++ keyword) ++ '[' :: inside := by
        simp [hright, hkeyword]
      rw [hsplit] at hs
      exact absurd (Text.close_mem_of_closesBrackets_append hs) hclose
  · exact ⟨gap, hrest.symm⟩

/-- A text without brackets has no references. -/
theorem references_eq_nil_of_no_bracket {t : Text} (h : ∀ c ∈ t, c ≠ '[' ∧ c ≠ ']') :
    references t = [] := by
  rw [List.eq_nil_iff_forall_not_mem]
  intro r hr
  have hwritten := (mem_references_iff.mp hr).2
  have hopen : '[' ∈ r.render := by
    simp [Reference.render, r.origin.bracket_mem_opening]
  exact (h '[' (hwritten.subset hopen)).1 rfl

/-- A character other than the first one of a keyword begins no reference. -/
theorem references_cons_of_ne {c : Char} (hc : c ≠ 's') (t : Text) :
    references (c :: t) = references t := by
  have hscan : Reference.scan? (c :: t) = none := by
    simp [Reference.scan?, Reference.scanFrom?, Origin.opening, Text.after?, hc.symm]
  rw [references, pieces_cons_of_scan?_eq_none hscan]
  rfl

/-- Texts with a space between them have the references of both, if the first one has balanced
brackets. -/
theorem references_append_space {s : Text} (hs : Text.bracketsBalanced s = true) (t : Text) :
    references (s ++ ' ' :: t) = references s ++ references t := by
  have happend : references (s ++ ' ' :: t) = references s ++ references (' ' :: t) := by
    rw [references, references, references,
      pieces_append (separate_of_bracketsBalanced hs (Text.beginsBlank_space t)),
      List.filterMap_append]
  rw [happend, references_cons_of_ne (by decide)]

/-- References of texts with a space between them are known when those of both are. -/
theorem Known.append_space {headers : List Text} {s t : Text} (hs : Known headers s)
    (ht : Known headers t) (hbalanced : Text.bracketsBalanced s = true) :
    Known headers (s ++ ' ' :: t) := by
  intro r hr
  rw [references_append_space hbalanced] at hr
  rcases List.mem_append.mp hr with hr | hr
  · exact hs r hr
  · exact ht r hr

/-- A text without brackets has no unknown references. -/
theorem known_of_no_bracket {headers : List Text} {t : Text} (h : ∀ c ∈ t, c ≠ '[' ∧ c ≠ ']') :
    Known headers t := by
  intro r hr
  simp [references_eq_nil_of_no_bracket h] at hr

end References

section Alternatives

/-- A character in front of a text is put in front of its first piece, unless a mark between
alternatives begins with it. -/
theorem splitAlternatives_cons {c : Char} {t piece : Text} {pieces : List Text}
    (hmark : ¬ "||".toList <+: c :: t) (ht : splitAlternatives t = piece :: pieces) :
    splitAlternatives (c :: t) = (c :: piece) :: pieces := by
  have hplain : ∀ rest, c = '|' → t = '|' :: rest → False := by
    rintro rest rfl rfl
    exact hmark ⟨rest, rfl⟩
  rw [splitAlternatives.eq_3 c t hplain, ht]

/-- A text without a mark between alternatives has none behind its first character. -/
theorem Text.Undivided.tail {c : Char} {t : Text} (h : Text.Undivided (c :: t)) :
    Text.Undivided t :=
  fun hmark => h (hmark.trans (List.suffix_cons c t).isInfix)

/-- A text without a mark between alternatives is one piece. -/
theorem Text.Undivided.splitAlternatives_eq {t : Text} (h : t.Undivided) :
    splitAlternatives t = [t] := by
  induction t with
  | nil => rfl
  | cons c t ih =>
    exact splitAlternatives_cons (fun hmark => h hmark.isInfix) (ih h.tail)

/-- A mark between alternatives does not begin in a text and end with another character behind
it. -/
theorem isPrefix_of_isPrefix_append {t rest : Text} {c : Char} (hc : c ≠ '|')
    (h : "||".toList <+: t ++ c :: rest) : "||".toList <+: t := by
  rcases t with _ | ⟨a, _ | ⟨b, t⟩⟩
  · simp [hc.symm] at h
  · simp [hc.symm] at h
  · simpa using h

/-- Texts with another character between them hold no mark between alternatives together. -/
theorem Text.Undivided.append_cons {s t : Text} {c : Char} (hs : Text.Undivided s)
    (ht : Text.Undivided t) (hc : c ≠ '|') : Text.Undivided (s ++ c :: t) := by
  induction s with
  | nil =>
    intro hmark
    rcases List.infix_cons_iff.mp hmark with hfirst | hlater
    · simp [hc.symm] at hfirst
    · exact ht hlater
  | cons d s ih =>
    intro hmark
    rcases List.infix_cons_iff.mp hmark with hfirst | hlater
    · exact hs (isPrefix_of_isPrefix_append (t := d :: s) hc hfirst).isInfix
    · exact ih hs.tail hlater

/-- A text without bars holds no mark between alternatives. -/
theorem Text.undivided_of_not_mem {t : Text} (h : '|' ∉ t) : Text.Undivided t :=
  fun hmark => h (hmark.subset (by simp))

/-- A mark between alternatives with a space before it ends the first piece. -/
theorem Text.Undivided.splitAlternatives_append {t : Text} (h : t.Undivided) (rest : Text) :
    splitAlternatives (t ++ ' ' :: '|' :: '|' :: rest) =
      (t ++ [' ']) :: splitAlternatives rest := by
  induction t with
  | nil => exact splitAlternatives_cons (by simp) rfl
  | cons c t ih =>
    refine splitAlternatives_cons (fun hmark => h ?_) (ih h.tail)
    exact (isPrefix_of_isPrefix_append (t := c :: t) (by decide) hmark).isInfix

/-- A text by itself is joined to nothing. -/
theorem join_alternatives_singleton (piece : Text) :
    Text.join " || ".toList [piece] = piece := by
  simp [Text.join]

/-- Between two texts that are joined stands a mark with a space on both sides. -/
theorem join_alternatives (first next : Text) (rest : List Text) :
    Text.join " || ".toList (first :: next :: rest) =
      first ++ ' ' :: ("||".toList ++ ' ' :: Text.join " || ".toList (next :: rest)) := by
  simp [Text.join, List.intercalate]

/-- Texts with marks between them are the pieces, apart from blanks. A space in front of the
first one makes no difference. -/
theorem map_trim_splitAlternatives {pieces : List Text} (hne : pieces ≠ [])
    (hpieces : ∀ piece ∈ pieces, piece.Undivided) (lead : Text) (hlead : lead = [] ∨ lead = [' ']) :
    (splitAlternatives (lead ++ Text.join " || ".toList pieces)).map Text.trim =
      pieces.map Text.trim := by
  have hblank : ∀ c ∈ lead, Text.isBlank c = true := by
    rcases hlead with rfl | rfl <;> decide
  induction pieces generalizing lead with
  | nil => exact absurd rfl hne
  | cons piece rest ih =>
    have hfirst : Text.Undivided (lead ++ piece) := by
      have hpiece : piece.Undivided := hpieces piece List.mem_cons_self
      rcases hlead with rfl | rfl
      · exact hpiece
      · exact Text.Undivided.append_cons (s := []) (by simp [Text.Undivided]) hpiece (by decide)
    cases rest with
    | nil =>
      rw [join_alternatives_singleton, hfirst.splitAlternatives_eq]
      simp [Text.trim_blanks_append hblank]
    | cons next rest =>
      have hjoin : lead ++ Text.join " || ".toList (piece :: next :: rest) =
          (lead ++ piece) ++ ' ' :: '|' :: '|' ::
            ([' '] ++ Text.join " || ".toList (next :: rest)) := by
        rw [join_alternatives]
        simp
      have hrest := ih (by simp)
        (fun other hother => hpieces other (List.mem_cons_of_mem piece hother)) [' '] (.inr rfl)
        (by decide)
      have htrim : Text.trim (lead ++ piece ++ [' ']) = Text.trim piece := by
        rw [Text.trim_append_blanks (by decide), Text.trim_blanks_append hblank]
      rw [hjoin, hfirst.splitAlternatives_append, List.map_cons, hrest, htrim]
      rfl

end Alternatives

namespace WrittenOperand

/-- The token that an operand is written as. -/
def token : WrittenOperand → Token
  | reference r => .ofReference r
  | string value => ⟨.string, value, '"' :: value ++ ['"']⟩
  | whole digits => .plain .number digits
  | decimal front mark fraction => .plain .number (front ++ mark :: fraction)
  | formula body => .plain .formula ('=' :: body)

/-- An operand is written as its token. -/
theorem raw_token (o : WrittenOperand) : o.token.raw = o.render := by
  cases o with
  | reference r => exact Token.raw_ofReference r
  | _ => rfl

/-- An operand is neither plain text nor an operator. -/
theorem kind_token (o : WrittenOperand) : o.token.kind ≠ .text ∧ o.token.kind ≠ .operator := by
  cases o with
  | reference r => rcases Token.kind_ofReference r with h | h <;> simp [token, h]
  | _ => exact ⟨by simp [token, Token.plain], by simp [token, Token.plain]⟩

variable {headers : List Text} {o : WrittenOperand}

/-- The token of an operand has the form of its kind. -/
theorem Canonical.shape (h : o.Canonical headers) : o.token.Shape := by
  cases h with
  | reference hbrackets _ _ => exact .reference _ hbrackets
  | string hquote _ _ => exact .string hquote
  | whole hne hdigits => exact .whole hne hdigits
  | decimal hne hfront hmark hsome hfraction => exact .fraction hne hfront hmark hfraction hsome
  | formula hne hbody _ _ => exact .formula hne hbody

/-- The token of an operand stands for what is meant. -/
theorem Canonical.ofToken_token (h : o.Canonical headers) :
    Operand.ofToken o.token = o.operand := by
  cases h with
  | @reference r _ _ _ => rcases r with ⟨_ | _, column⟩ <;> rfl
  | string _ _ _ => rfl
  | whole hne hdigits =>
    have hread : ∀ digits, Operand.ofToken (WrittenOperand.whole digits).token =
        .number (readNumber digits) := fun digits => rfl
    rw [hread, readNumber, Numeral.normalizeDecimal_digits hdigits,
      Numeral.ofText?_digits hne hdigits]
    rfl
  | decimal hne hfront hmark hsome hfraction =>
    have hread : ∀ front mark fraction,
        Operand.ofToken (WrittenOperand.decimal front mark fraction).token =
          .number (readNumber (front ++ mark :: fraction)) := fun front mark fraction => rfl
    rw [hread, readNumber, Numeral.normalizeDecimal_fraction hmark hfront hfraction,
      Numeral.ofText?_fraction hne hfront hfraction]
    rfl
  | formula _ _ _ _ => rfl

/-- An operand neither begins nor ends with a blank. -/
theorem Canonical.trim_render (h : o.Canonical headers) : Text.trim o.render = o.render := by
  rw [← raw_token]
  exact h.shape.trim_raw o.kind_token.1

/-- An operand does not begin with the marker of formulas. -/
theorem Canonical.exists_render_eq_cons (h : o.Canonical headers) :
    ∃ c rest, o.render = c :: rest ∧ c ≠ 'f' := by
  have hdigit : ∀ {digits : Text}, digits ≠ [] → (∀ c ∈ digits, Text.isDigit c = true) →
      ∃ c rest, digits = c :: rest ∧ c ≠ 'f' := by
    intro digits hne hdigits
    obtain ⟨c, rest, rfl⟩ := List.exists_cons_of_ne_nil hne
    refine ⟨c, rest, rfl, ?_⟩
    rintro rfl
    exact absurd (hdigits 'f' List.mem_cons_self) (by decide)
  cases h with
  | @reference r _ _ _ =>
    obtain ⟨rest, hrest⟩ := r.render_eq_cons
    exact ⟨'s', rest, hrest, by decide⟩
  | string _ _ _ => exact ⟨'"', _, rfl, by decide⟩
  | whole hne hdigits => exact hdigit hne hdigits
  | decimal hne hfront _ _ _ =>
    obtain ⟨c, rest, rfl, hc⟩ := hdigit hne hfront
    exact ⟨c, _, rfl, hc⟩
  | formula _ _ _ _ => exact ⟨'=', _, rfl, by decide⟩

/-- The characters of numbers are neither bars nor brackets. -/
theorem ne_of_number_char {c : Char} (hc : Text.isDigit c = true ∨ c = '.' ∨ c = ',') :
    c ≠ '|' ∧ c ≠ '[' ∧ c ≠ ']' := by
  have hother : ∀ d : Char, Text.isDigit d = false → d ≠ '.' → d ≠ ',' → c ≠ d := by
    rintro d hdigit hpoint hcomma rfl
    simp [hdigit, hpoint, hcomma] at hc
  exact ⟨hother '|' (by decide) (by decide) (by decide), hother '[' (by decide) (by decide)
    (by decide), hother ']' (by decide) (by decide) (by decide)⟩

/-- A number is written in digits with at most a point or a comma. -/
theorem number_char_of_mem {front fraction : Text} {mark c : Char}
    (hfront : ∀ c ∈ front, Text.isDigit c = true) (hmark : mark = '.' ∨ mark = ',')
    (hfraction : ∀ c ∈ fraction, Text.isDigit c = true) (hc : c ∈ front ++ mark :: fraction) :
    Text.isDigit c = true ∨ c = '.' ∨ c = ',' := by
  rcases List.mem_append.mp hc with hc | hc
  · exact .inl (hfront c hc)
  rcases List.mem_cons.mp hc with rfl | hc
  · exact .inr hmark
  · exact .inl (hfraction c hc)

/-- An operand holds no mark between alternatives. -/
theorem Canonical.undivided (h : o.Canonical headers) : Text.Undivided o.render := by
  have hend : Text.Undivided [] := by simp [Text.Undivided]
  cases h with
  | @reference r _ hmark _ =>
    obtain ⟨keyword, hkeyword, hchars⟩ := r.origin.exists_opening_eq
    have hfront : Text.Undivided keyword := Text.undivided_of_not_mem fun hbar =>
      (hchars _ hbar).1 rfl
    have hrender : r.render = keyword ++ '[' :: (r.column ++ ']' :: []) := by
      simp [Reference.render, hkeyword]
    rw [render, hrender]
    exact hfront.append_cons (hmark.append_cons hend (by decide)) (by decide)
  | string _ _ hmark =>
    exact hend.append_cons (hmark.append_cons hend (by decide)) (by decide)
  | whole _ hdigits =>
    exact Text.undivided_of_not_mem fun hbar =>
      (ne_of_number_char (.inl (hdigits _ hbar))).1 rfl
  | decimal _ hfront hmark _ hfraction =>
    exact Text.undivided_of_not_mem fun hbar =>
      (ne_of_number_char (number_char_of_mem hfront hmark hfraction hbar)).1 rfl
  | formula _ hbody _ _ =>
    refine hend.append_cons (Text.undivided_of_not_mem fun hbar => ?_) (by decide)
    exact absurd (hbody _ hbar) (by decide)

/-- The text of a reference has balanced brackets. -/
theorem bracketsBalanced_render {r : Reference} (hr : r.WellFormed) :
    Text.bracketsBalanced r.render = true := by
  obtain ⟨keyword, hkeyword, hchars⟩ := r.origin.exists_opening_eq
  have hcolumn : ∀ c ∈ r.column, c ≠ '[' ∧ c ≠ ']' := by
    intro c hc
    simpa [Reference.isColumnChar] using hr c hc
  have hrender : r.render = keyword ++ '[' :: (r.column ++ ']' :: []) := by
    simp [Reference.render, hkeyword]
  rw [Text.bracketsBalanced, hrender, Text.closesBrackets_append fun c hc => (hchars c hc).2,
    Text.closesBrackets_open, Text.closesBrackets_append hcolumn, Text.closesBrackets_close]
  rfl

/-- A string or a number holds no bracket. -/
theorem Canonical.no_bracket (h : o.Canonical headers) (hreference : ∀ r, o ≠ .reference r)
    (hformula : ∀ body, o ≠ .formula body) : ∀ c ∈ o.render, c ≠ '[' ∧ c ≠ ']' := by
  cases h with
  | reference _ _ _ => exact absurd rfl (hreference _)
  | formula _ _ _ _ => exact absurd rfl (hformula _)
  | string _ hbrackets _ =>
    intro c hc
    rcases List.mem_append.mp hc with hc | hc
    · rcases List.mem_cons.mp hc with rfl | hc
      · decide
      · exact hbrackets c hc
    · obtain rfl := List.mem_singleton.mp hc
      decide
  | whole _ hdigits => exact fun c hc => (ne_of_number_char (.inl (hdigits c hc))).2
  | decimal _ hfront hmark _ hfraction =>
    exact fun c hc => (ne_of_number_char (number_char_of_mem hfront hmark hfraction hc)).2

/-- An operand closes the brackets that it opens. -/
theorem Canonical.bracketsBalanced (h : o.Canonical headers) :
    Text.bracketsBalanced o.render = true := by
  have hplain := h.no_bracket
  cases h with
  | reference hbrackets _ _ => exact bracketsBalanced_render hbrackets
  | formula _ _ hbalanced _ =>
    rw [render, Text.bracketsBalanced, Text.closesBrackets_cons (by decide) (by decide)]
    exact hbalanced
  | _ => exact Text.bracketsBalanced_of_no_bracket (hplain (by simp) (by simp))

/-- The references of an operand are known. -/
theorem Canonical.known (h : o.Canonical headers) : Known headers o.render := by
  have hplain := h.no_bracket
  cases h with
  | @reference r hbrackets _ hknown =>
    intro q hq hsource
    have hrender : references r.render = [r] := by
      have hpieces := pieces_render_append hbrackets []
      rw [List.append_nil, pieces_nil] at hpieces
      rw [references, hpieces]
      rfl
    rw [render, hrender, List.mem_singleton] at hq
    rw [hq] at hsource ⊢
    exact hknown hsource
  | formula _ _ _ hknown =>
    intro r hr hsource
    rw [render, references_cons_of_ne (by decide)] at hr
    exact hknown r hr hsource
  | _ => exact known_of_no_bracket (hplain (by simp) (by simp))

end WrittenOperand

namespace WrittenCondition

variable {headers : List Text} {c : WrittenCondition}

/-- The symbol of an operator holds neither bars nor brackets. -/
theorem symbol_chars (op : Operator) :
    ∀ c ∈ op.symbol, c ≠ '|' ∧ c ≠ '[' ∧ c ≠ ']' := by
  cases op <;> decide

/-- The lexemes that a condition is written as. -/
def lexemes : WrittenCondition → List Lexeme
  | comparison left op right =>
    [⟨[], left.token⟩, ⟨[' '], .plain .operator op.symbol⟩, ⟨[' '], right.token⟩]
  | formula body => [⟨[], (WrittenOperand.formula body).token⟩]

/-- A condition is written as its lexemes. -/
theorem flatMap_render_lexemes (c : WrittenCondition) :
    c.lexemes.flatMap Lexeme.render = c.render := by
  cases c with
  | comparison left op right => simp [lexemes, Lexeme.render, render, WrittenOperand.raw_token,
      Token.plain]
  | formula body => simp [lexemes, Lexeme.render, render, WrittenOperand.token, Token.plain]

/-- A condition is cut into its lexemes. -/
theorem Canonical.lexemes_render (h : c.Canonical headers) :
    Rowscript.lexemes c.render = c.lexemes := by
  rw [← flatMap_render_lexemes]
  cases c with
  | comparison left op right =>
    refine lexemes_flatMap_render ?_ (by simp [lexemes])
    simp only [lexemes, List.mem_cons, List.not_mem_nil, or_false]
    have hspace : ∀ c ∈ [' '], Text.isBlank c = true := by decide
    rintro l (rfl | rfl | rfl)
    · exact ⟨by simp, h.1.shape, left.kind_token.1⟩
    · exact ⟨hspace, .operator op, by simp [Token.plain]⟩
    · exact ⟨hspace, h.2.shape, right.kind_token.1⟩
  | formula body =>
    refine lexemes_flatMap_render ?_ (by simp [lexemes])
    simp only [lexemes, List.mem_singleton]
    rintro l rfl
    exact ⟨by simp, h.shape, by simp [WrittenOperand.token, Token.plain]⟩

/-- A condition is read as what is meant. -/
theorem Canonical.readCondition_render (h : c.Canonical headers) :
    readCondition c.render = .ok c.condition := by
  have hlexemes := h.lexemes_render
  have hne : c.render ≠ [] := by
    intro hnil
    rw [hnil, lexemes_of_trimLeft_eq_nil rfl] at hlexemes
    cases c <;> simp [lexemes] at hlexemes
  rw [readCondition, hlexemes, if_neg hne]
  cases c with
  | comparison left op right =>
    have hleft : left.token.kind ≠ .operator := left.kind_token.2
    have hoperand : ∀ {o : WrittenOperand} {blanks : Text}, o.Canonical headers →
        Operand.ofLexemes [⟨blanks, o.token⟩] = o.operand := fun ho => ho.ofToken_token
    simp [lexemes, List.span_eq_takeWhile_dropWhile, hleft, Token.plain, condition,
      hoperand h.1, hoperand h.2]
  | formula body => rfl

/-- A condition neither begins nor ends with a blank. -/
theorem Canonical.trim_render (h : c.Canonical headers) : Text.trim c.render = c.render := by
  cases c with
  | comparison left op right =>
    obtain ⟨a, _, hleft, -⟩ := h.1.exists_render_eq_cons
    obtain ⟨b, _, hright, -⟩ := h.2.exists_render_eq_cons
    have htrim := Text.trim_append_append h.1.trim_render h.2.trim_render (by simp [hleft])
      (by simp [hright]) (' ' :: op.symbol ++ [' '])
    simpa [render] using htrim
  | formula body => exact WrittenOperand.Canonical.trim_render h

/-- A condition does not begin with the marker of formulas. -/
theorem Canonical.exists_render_eq_cons (h : c.Canonical headers) :
    ∃ d rest, c.render = d :: rest ∧ d ≠ 'f' := by
  cases c with
  | comparison left op right =>
    obtain ⟨d, rest, hleft, hd⟩ := h.1.exists_render_eq_cons
    exact ⟨d, _, by rw [render, hleft, List.cons_append], hd⟩
  | formula body => exact ⟨'=', body, rfl, by decide⟩

/-- A condition holds no mark between alternatives. -/
theorem Canonical.undivided (h : c.Canonical headers) : Text.Undivided c.render := by
  cases c with
  | comparison left op right =>
    have hop : Text.Undivided op.symbol :=
      Text.undivided_of_not_mem fun hbar => (symbol_chars op _ hbar).1 rfl
    exact h.1.undivided.append_cons (hop.append_cons h.2.undivided (by decide)) (by decide)
  | formula body => exact WrittenOperand.Canonical.undivided h

/-- A condition closes the brackets that it opens. -/
theorem Canonical.bracketsBalanced (h : c.Canonical headers) :
    Text.bracketsBalanced c.render = true := by
  cases c with
  | comparison left op right =>
    have hop : Text.bracketsBalanced op.symbol = true :=
      Text.bracketsBalanced_of_no_bracket fun d hd => (symbol_chars op d hd).2
    exact Text.bracketsBalanced_append_space h.1.bracketsBalanced
      (Text.bracketsBalanced_append_space hop h.2.bracketsBalanced)
  | formula body => exact WrittenOperand.Canonical.bracketsBalanced h

/-- The references of a condition are known. -/
theorem Canonical.known (h : c.Canonical headers) : Known headers c.render := by
  cases c with
  | comparison left op right =>
    have hop : ∀ d ∈ op.symbol, d ≠ '[' ∧ d ≠ ']' := fun d hd => (symbol_chars op d hd).2
    exact h.1.known.append_space ((known_of_no_bracket hop).append_space h.2.known
      (Text.bracketsBalanced_of_no_bracket hop)) h.1.bracketsBalanced
  | formula body => exact WrittenOperand.Canonical.known h

end WrittenCondition

section Filters

variable {headers : List Text}

/-- Alternatives with balanced brackets and known references have both together. -/
theorem join_alternatives_balanced_known {pieces : List Text}
    (hpieces : ∀ piece ∈ pieces, Text.bracketsBalanced piece = true ∧ Known headers piece) :
    Text.bracketsBalanced (Text.join " || ".toList pieces) = true ∧
      Known headers (Text.join " || ".toList pieces) := by
  induction pieces with
  | nil => exact ⟨rfl, known_of_no_bracket (by simp [Text.join])⟩
  | cons piece rest ih =>
    obtain ⟨hbalanced, hknown⟩ := hpieces piece List.mem_cons_self
    cases rest with
    | nil =>
      rw [join_alternatives_singleton]
      exact ⟨hbalanced, hknown⟩
    | cons next rest =>
      obtain ⟨hrestBalanced, hrestKnown⟩ :=
        ih fun other hother => hpieces other (List.mem_cons_of_mem piece hother)
      have hmark : ∀ c ∈ "||".toList, c ≠ '[' ∧ c ≠ ']' := by decide
      have hmarkBalanced := Text.bracketsBalanced_of_no_bracket hmark
      rw [join_alternatives]
      exact ⟨Text.bracketsBalanced_append_space hbalanced
          (Text.bracketsBalanced_append_space hmarkBalanced hrestBalanced),
        hknown.append_space ((known_of_no_bracket hmark).append_space hrestKnown hmarkBalanced)
          hbalanced⟩

/-- Joined texts that are trimmed are trimmed together. -/
theorem trim_join_alternatives {pieces : List Text}
    (hpieces : ∀ piece ∈ pieces, Text.trim piece = piece ∧ piece ≠ []) :
    Text.trim (Text.join " || ".toList pieces) = Text.join " || ".toList pieces ∧
      (pieces ≠ [] → Text.join " || ".toList pieces ≠ []) := by
  induction pieces with
  | nil => exact ⟨rfl, fun h => absurd rfl h⟩
  | cons piece rest ih =>
    obtain ⟨htrim, hne⟩ := hpieces piece List.mem_cons_self
    cases rest with
    | nil =>
      rw [join_alternatives_singleton]
      exact ⟨htrim, fun _ => hne⟩
    | cons next rest =>
      obtain ⟨hrest, hsome⟩ :=
        ih fun other hother => hpieces other (List.mem_cons_of_mem piece hother)
      have hboth := Text.trim_append_append htrim hrest hne (hsome (by simp)) " || ".toList
      have hjoin : Text.join " || ".toList (piece :: next :: rest) =
          piece ++ " || ".toList ++ Text.join " || ".toList (next :: rest) := by
        rw [join_alternatives]
        simp
      rw [hjoin]
      exact ⟨hboth, fun _ => by simp [hne]⟩

/-- Conditions that are written with marks between them are read as what is meant, in their
order. -/
theorem readConditions_join {conditions : List WrittenCondition} (hne : conditions ≠ [])
    (hcanonical : ∀ c ∈ conditions, c.Canonical headers) :
    readConditions (Text.join " || ".toList (conditions.map WrittenCondition.render)) =
      .ok (conditions.map WrittenCondition.condition) := by
  have hundivided : ∀ piece ∈ conditions.map WrittenCondition.render, Text.Undivided piece := by
    intro piece hpiece
    obtain ⟨c, hc, rfl⟩ := List.mem_map.mp hpiece
    exact (hcanonical c hc).undivided
  have hsplit := map_trim_splitAlternatives (by simpa using hne) hundivided [] (.inl rfl)
  rw [List.nil_append] at hsplit
  have htrim : (conditions.map WrittenCondition.render).map Text.trim =
      conditions.map WrittenCondition.render := by
    rw [List.map_map]
    exact List.map_congr_left fun c hc => (hcanonical c hc).trim_render
  rw [readConditions, mapM_eq_ok_iff,
    ← List.forall₂_map_left_iff (R := fun piece c => readCondition piece = .ok c), hsplit, htrim,
    List.forall₂_map_left_iff, List.forall₂_map_right_iff, List.forall₂_same]
  exact fun c hc => (hcanonical c hc).readCondition_render

/-- An evaluated filter that is not one formula is read by its references and its
conditions. -/
theorem readFilter_evaluated {name body : Text} (htrim : Text.trim body = body)
    (hformula : Text.after? formulaMarker body = none) :
    readFilter headers name (evalMarker ++ body) = (do
      checkReferences headers body
      let conditions ← readConditions body
      return ⟨name, evalMarker ++ body, true, .anyOf conditions⟩) := by
  simp only [readFilter, Text.after?_append, Option.map_some, Option.getD_some, htrim,
    Option.isSome_some, hformula, if_true]

/-- An evaluated filter under a filter's header is read when its conditions are. -/
theorem readRule_evaluated {header name body : Text} {conditions : List Condition}
    (hheader : Text.after? filterMarker (Text.trim header) = some name)
    (htrim : Text.trim body = body) (hne : body ≠ [])
    (hformula : Text.after? formulaMarker body = none)
    (hbalanced : Text.bracketsBalanced body = true) (hknown : Known headers body)
    (hconditions : readConditions body = .ok conditions) :
    readRule headers header (evalMarker ++ body) =
      .ok (.filter ⟨Text.trim name, evalMarker ++ body, true, .anyOf conditions⟩) := by
  have htrimmed : Text.trim (evalMarker ++ body) = evalMarker ++ body := by
    have happend := Text.trim_append_append (s := evalMarker) (by decide) htrim (by decide) hne []
    rwa [List.append_nil] at happend
  have hbrackets : Text.bracketsBalanced (evalMarker ++ body) = true :=
    Text.bracketsBalanced_append (by decide) hbalanced
  have hfilter : readFilter headers (Text.trim name) (evalMarker ++ body) =
      .ok ⟨Text.trim name, evalMarker ++ body, true, .anyOf conditions⟩ := by
    rw [readFilter_evaluated htrim hformula]
    exact bind_eq_ok_iff.mpr ⟨(), checkReferences_eq_ok_iff.mpr hknown,
      bind_eq_ok_iff.mpr ⟨conditions, hconditions, rfl⟩⟩
  rw [readRule_eq_ok_iff, htrimmed, readTrimmed, hbrackets, hheader]
  exact bind_eq_ok_iff.mpr ⟨_, hfilter, rfl⟩

/-- Another character than the first one of the marker of formulas begins no such marker. -/
theorem after?_formulaMarker_cons {c : Char} (hc : c ≠ 'f') (t : Text) :
    Text.after? formulaMarker (c :: t) = none := by
  have hmarker : formulaMarker = 'f' :: "ormula:".toList := rfl
  rw [hmarker, Text.after?, if_neg (by simpa using hc.symm)]

/-- Joined texts begin with the first character of the first one. -/
theorem exists_join_alternatives_cons (c : Char) (piece : Text) (rest : List Text) :
    ∃ tail, Text.join " || ".toList ((c :: piece) :: rest) = c :: tail := by
  cases rest with
  | nil => exact ⟨piece, join_alternatives_singleton (c :: piece)⟩
  | cons next rest => exact ⟨_, by rw [join_alternatives, List.cons_append]⟩

/-- A filter that is written plainly is read as what is meant: as an evaluated filter with its
conditions, one by one and in their order. -/
theorem readRule_renderFilter {header name : Text} {conditions : List WrittenCondition}
    (hheader : Text.after? filterMarker (Text.trim header) = some name)
    (hne : conditions ≠ []) (hcanonical : ∀ c ∈ conditions, c.Canonical headers) :
    readRule headers header (renderFilter conditions) =
      .ok (.filter ⟨Text.trim name, renderFilter conditions, true,
        .anyOf (conditions.map WrittenCondition.condition)⟩) := by
  have hpieces : ∀ piece ∈ conditions.map WrittenCondition.render,
      (Text.bracketsBalanced piece = true ∧ Known headers piece) ∧
        Text.trim piece = piece ∧ piece ≠ [] := by
    intro piece hpiece
    obtain ⟨c, hc, rfl⟩ := List.mem_map.mp hpiece
    have hcanonical := hcanonical c hc
    obtain ⟨_, _, hcons, -⟩ := hcanonical.exists_render_eq_cons
    exact ⟨⟨hcanonical.bracketsBalanced, hcanonical.known⟩, hcanonical.trim_render,
      by simp [hcons]⟩
  obtain ⟨hbalanced, hknown⟩ :=
    join_alternatives_balanced_known fun piece hpiece => (hpieces piece hpiece).1
  obtain ⟨htrim, hsome⟩ := trim_join_alternatives fun piece hpiece => (hpieces piece hpiece).2
  have hformula : Text.after? formulaMarker
      (Text.join " || ".toList (conditions.map WrittenCondition.render)) = none := by
    obtain ⟨c, rest, rfl⟩ := List.exists_cons_of_ne_nil hne
    obtain ⟨d, more, hcons, hd⟩ := (hcanonical c List.mem_cons_self).exists_render_eq_cons
    obtain ⟨tail, hjoin⟩ :=
      exists_join_alternatives_cons d more (rest.map WrittenCondition.render)
    rw [List.map_cons, hcons, hjoin, after?_formulaMarker_cons hd]
  exact readRule_evaluated hheader htrim (hsome (by simpa using hne)) hformula hbalanced hknown
    (readConditions_join hne hcanonical)

/-- Column names and strings that look like conditions, and a formula that compares, are kept
apart. -/
theorem readRule_lookalikes :
    readRule ["a >= \"1\"".toList, "P".toList] " _filter: keep ".toList
        "eval:src[a >= \"1\"] >= 4,5 || \"x < src\" != self[<] || =IF(src[P]<3,1,0)".toList =
      .ok (.filter ⟨"keep".toList,
        "eval:src[a >= \"1\"] >= 4,5 || \"x < src\" != self[<] || =IF(src[P]<3,1,0)".toList,
        true, .anyOf
          [.comparison (.reference ⟨.source, "a >= \"1\"".toList⟩) ">=".toList
              (.number (.ofNumeral ⟨false, ['4'], ['5'], none⟩)),
            .comparison (.string "x < src".toList) "!=".toList (.reference ⟨.output, ['<']⟩),
            .formula "=IF(src[P]<3,1,0)".toList]⟩) := by
  let headers := ["a >= \"1\"".toList, "P".toList]
  have hcolumn : (WrittenOperand.reference ⟨.source, "a >= \"1\"".toList⟩).Canonical headers :=
    .reference (by decide +kernel) (by decide +kernel) (by decide +kernel)
  have hpoint : (WrittenOperand.decimal ['4'] ',' ['5']).Canonical headers :=
    .decimal (by decide) (by decide) (by decide) (by decide) (by decide)
  have hstring : (WrittenOperand.string "x < src".toList).Canonical headers :=
    .string (by decide +kernel) (by decide +kernel) (by decide +kernel)
  have hoperator : (WrittenOperand.reference ⟨.output, ['<']⟩).Canonical headers :=
    .reference (by decide +kernel) (by decide +kernel) (by decide +kernel)
  have hformula : (WrittenOperand.formula "IF(src[P]<3,1,0)".toList).Canonical headers :=
    .formula (by decide +kernel) (by decide +kernel) (by decide +kernel) (by decide +kernel)
  let conditions : List WrittenCondition :=
    [.comparison (.reference ⟨.source, "a >= \"1\"".toList⟩) .atLeast (.decimal ['4'] ',' ['5']),
      .comparison (.string "x < src".toList) .notEqual (.reference ⟨.output, ['<']⟩),
      .formula "IF(src[P]<3,1,0)".toList]
  have hrender : renderFilter conditions =
      "eval:src[a >= \"1\"] >= 4,5 || \"x < src\" != self[<] || =IF(src[P]<3,1,0)".toList := by
    decide +kernel
  have hcanonical : ∀ c ∈ conditions, c.Canonical headers := by
    intro c hc
    rcases List.mem_cons.mp hc with rfl | hc
    · exact ⟨hcolumn, hpoint⟩
    rcases List.mem_cons.mp hc with rfl | hc
    · exact ⟨hstring, hoperator⟩
    · obtain rfl := List.mem_singleton.mp hc
      exact hformula
  have hheader : Text.after? filterMarker (Text.trim " _filter: keep ".toList) =
      some " keep".toList := by
    decide +kernel
  have hread := readRule_renderFilter hheader (by simp [conditions]) hcanonical
  rw [hrender] at hread
  exact hread

end Filters

end Rowscript
