import Rowscript.Proofs.TokenSequences

/-!
# The number at the beginning of a text

A value is ordered by the number at the beginning of its text, so that `5 kg` is ordered as
`5`. A number may be written with a decimal comma, and whether a comma is one is decided on
the text as a whole: with another comma or a point behind the number, its comma ends it.
-/

namespace Rowscript

/-- A number as it is written in a sheet: perhaps a sign, then digits, and perhaps a point or a
comma with more digits. -/
structure WrittenNumber where
  negative : Bool
  sign : Text
  sign_written : Numeral.SignWritten negative sign
  whole : Text
  whole_ne_nil : whole ≠ []
  whole_digits : ∀ c ∈ whole, Text.isDigit c = true
  /-- The mark and the digits behind it. -/
  decimals : Option (Char × Text)
  decimals_written : ∀ mark digits, decimals = some (mark, digits) →
    (mark = '.' ∨ mark = ',') ∧ digits ≠ [] ∧ ∀ c ∈ digits, Text.isDigit c = true

namespace WrittenNumber

/-- The mark and the digits behind it as a text. -/
def decimalsText : Option (Char × Text) → Text
  | none => []
  | some (mark, digits) => mark :: digits

/-- The text of a number. -/
def render (n : WrittenNumber) : Text := n.sign ++ (n.whole ++ decimalsText n.decimals)

/-- The text of a number with a point for its decimal mark. -/
def pointed (n : WrittenNumber) : Text :=
  n.sign ++ (n.whole ++ decimalsText (n.decimals.map fun (_, digits) => ('.', digits)))

/-- The numeral that a number is. -/
def numeral (n : WrittenNumber) : Numeral :=
  ⟨n.negative, n.whole, (n.decimals.map Prod.snd).getD [], none⟩

/-- A number without its decimals. -/
def truncate (n : WrittenNumber) : WrittenNumber :=
  { n with decimals := none, decimals_written := by simp }

variable (n : WrittenNumber)

/-- A number has no decimals, or a mark with digits behind it. -/
theorem decimals_cases : n.decimals = none ∨
    ∃ mark digits, n.decimals = some (mark, digits) ∧ (mark = '.' ∨ mark = ',') ∧ digits ≠ [] ∧
      ∀ c ∈ digits, Text.isDigit c = true := by
  rcases hdecimals : n.decimals with _ | ⟨mark, digits⟩
  · exact .inl rfl
  · exact .inr ⟨mark, digits, rfl, n.decimals_written mark digits hdecimals⟩

/-- There is no comma and no point in front of the mark. -/
theorem not_mem_front : ',' ∉ n.sign ++ n.whole ∧ '.' ∉ n.sign ++ n.whole := by
  have hwhole := Numeral.not_mem_of_digits n.whole_digits
  have hcomma : ',' ∉ n.sign := fun h => absurd (n.sign_written.mem _ h) (by decide)
  have hpoint : '.' ∉ n.sign := fun h => absurd (n.sign_written.mem _ h) (by decide)
  simp [hcomma, hpoint, hwhole]

/-- A number with a comma has it for its decimal mark. -/
theorem exists_of_comma_mem (h : ',' ∈ n.render) : ∃ digits, n.decimals = some (',', digits) := by
  obtain ⟨hfront, -⟩ := n.not_mem_front
  rw [render, ← List.append_assoc, List.mem_append, or_iff_right hfront] at h
  rcases n.decimals_cases with hnone | ⟨mark, digits, hsome, -, -, hdigits⟩
  · simp [hnone, decimalsText] at h
  · rw [hsome, decimalsText, List.mem_cons,
      or_iff_left (Numeral.not_mem_of_digits hdigits).1] at h
    exact ⟨digits, by rw [hsome, ← h]⟩

/-- With a comma for its mark, a number has the comma between digits. -/
theorem render_of_comma {digits : Text} (h : n.decimals = some (',', digits)) :
    n.render = (n.sign ++ n.whole) ++ ',' :: digits := by
  rw [render, h, List.append_assoc]
  rfl

/-- Without a comma there is nothing to turn into a point. -/
theorem pointed_of_comma_not_mem (h : ',' ∉ n.render) : n.pointed = n.render := by
  unfold pointed render
  rcases n.decimals_cases with hnone | ⟨mark, digits, hsome, rfl | rfl, -, -⟩
  · rw [hnone, Option.map_none]
  · rw [hsome, Option.map_some]
  · exact absurd (by simp [render, hsome, decimalsText]) h

/-- With a point for its decimal mark, a number is written as a numeral. -/
theorem numeral_writtenAs : n.numeral.WrittenAs n.pointed := by
  have hmantissa : Numeral.MantissaWritten n.numeral.whole n.numeral.fraction
      (n.whole ++ decimalsText (n.decimals.map fun (_, digits) => ('.', digits))) := by
    unfold numeral
    rcases n.decimals_cases with hnone | ⟨mark, digits, hsome, -, -, hdigits⟩
    · simpa [hnone, decimalsText] using .whole n.whole_ne_nil n.whole_digits
    · simpa [hsome, decimalsText] using .point n.whole_ne_nil n.whole_digits hdigits
  have hparts := Numeral.WrittenAs.parts n.sign_written hmantissa .absent
  rwa [List.append_nil] at hparts

/-- A number is made of digits, signs and decimal marks. -/
theorem of_mem_render {P : Char → Prop} (hdigit : ∀ c, Text.isDigit c = true → P c)
    (hmark : ∀ c ∈ "+-.,".toList, P c) : ∀ c ∈ n.render, P c := by
  refine List.forall_mem_append.mpr ⟨fun c hc => hmark c ?_, List.forall_mem_append.mpr
    ⟨fun c hc => hdigit c (n.whole_digits c hc), ?_⟩⟩
  · rcases n.sign_written.mem c hc with rfl | rfl <;> decide
  · rcases n.decimals_cases with hnone | ⟨mark, digits, hsome, hpoint, -, hdigits⟩
    · simp [hnone, decimalsText]
    · rw [hsome]
      refine List.forall_mem_cons.mpr ⟨hmark mark ?_, fun c hc => hdigit c (hdigits c hc)⟩
      rcases hpoint with rfl | rfl <;> decide

/-- A number holds no blank. -/
theorem isBlank_of_mem_render : ∀ c ∈ n.render, Text.isBlank c = false :=
  n.of_mem_render (fun _ => Text.isBlank_of_isDigit) (by decide)

/-- A number is not empty. -/
theorem render_ne_nil : n.render ≠ [] := by
  simp [render, n.whole_ne_nil]

end WrittenNumber

namespace Text

/-- Nothing is cut off between a text without blanks and what follows it. -/
theorem trim_append_of_forall {p : Text} (hp : ∀ c ∈ p, isBlank c = false) (hne : p ≠ [])
    (s : Text) : trim (p ++ s) = p ++ trimRight s := by
  obtain ⟨c, rest, rfl⟩ := List.exists_cons_of_ne_nil hne
  have hright : trimRight (c :: rest) = c :: rest := by
    have htrim := trimRight_trim (c :: rest)
    rwa [trim_eq_self hp] at htrim
  rw [trim, List.cons_append, trimLeft_cons (hp c List.mem_cons_self), ← List.cons_append,
    trimRight_append]
  split
  · next h => rw [h, hright, List.append_nil]
  · rfl

/-- A character that is no blank is not cut off at the end. -/
theorem mem_trimRight_iff {c : Char} (hc : isBlank c = false) {s : Text} :
    c ∈ trimRight s ↔ c ∈ s := by
  obtain ⟨blanks, hblanks, hsplit⟩ := exists_trimRight_append s
  have hnone : c ∉ blanks := fun hmem => by simp [hblanks c hmem] at hc
  conv_rhs => rw [hsplit, List.mem_append, or_iff_left hnone]

/-- A text that begins with a blank, if at all, does so also without the blanks at its end. -/
theorem BeginsBlank.trimRight {s : Text} (h : s.BeginsBlank) : (trimRight s).BeginsBlank := by
  intro c hc
  obtain ⟨rest, hrest⟩ := List.head?_eq_some_iff.mp hc
  obtain ⟨tail, htail⟩ := trimRight_isPrefix s
  exact h c (by rw [← htail, hrest]; rfl)

/-- A numeral does not go on with a blank. -/
theorem BeginsBlank.goesOn {s : Text} (h : s.BeginsBlank) :
    ∀ c ∈ s.head?, Numeral.goesOn c = false := by
  intro c hc
  cases hgoes : Numeral.goesOn c with
  | false => rfl
  | true =>
    have hchar : Numeral.isNumeralChar c = true := by simp [Numeral.isNumeralChar, hgoes]
    exact absurd (h c hc) (by simp [Numeral.isBlank_of_isNumeralChar hchar])

/-- Turning a decimal comma into a point keeps the blank at the beginning of a text. -/
theorem BeginsBlank.map_comma {s : Text} (h : s.BeginsBlank) :
    BeginsBlank (s.map fun c => if c = ',' then '.' else c) := by
  cases s with
  | nil => exact h
  | cons c rest =>
    have hc : isBlank c = true := h c rfl
    have hcomma : c ≠ ',' := by rintro rfl; exact absurd hc (by decide)
    intro d hd
    rw [List.map_cons, if_neg hcomma] at hd
    obtain rfl := Option.some.inj hd
    exact hc

end Text

/-- Behind a text without a comma, a decimal comma may be turned into a point, but the text
itself stays. -/
theorem Numeral.exists_normalizeDecimal_append {p s : Text} (hp : ',' ∉ p)
    (hs : s.BeginsBlank) :
    ∃ tail : Text, tail.BeginsBlank ∧ normalizeDecimal (p ++ s) = p ++ tail := by
  unfold normalizeDecimal
  split
  · exact ⟨_, hs.map_comma, by rw [List.map_append, map_comma_eq_self hp]⟩
  · exact ⟨s, hs, rfl⟩

namespace WrittenNumber

variable (n : WrittenNumber) {s : Text}

/-- The number at the beginning of a text in which it is a numeral. -/
theorem leadingNumberOfText_append {m : Numeral} {written : Text} (h : m.WrittenAs written)
    (hrest : ∀ c ∈ s.head?, Numeral.goesOn c = false) :
    Cell.leadingNumberOfText (written ++ s) = .ofNumeral m := by
  rw [Cell.leadingNumberOfText, h.scan?_append hrest]

/-- A number without a comma is read whatever text follows behind a blank. -/
theorem leadingNumber_of_comma_not_mem (hcomma : ',' ∉ n.render) (hs : s.BeginsBlank) :
    (Cell.text (n.render ++ s)).leadingNumber = .ok (.ofNumeral n.numeral) := by
  have hwritten := n.numeral_writtenAs
  rw [n.pointed_of_comma_not_mem hcomma] at hwritten
  obtain ⟨tail, htail, hnormal⟩ := Numeral.exists_normalizeDecimal_append hcomma hs.trimRight
  rw [Cell.leadingNumber, Text.trim_append_of_forall n.isBlank_of_mem_render n.render_ne_nil,
    hnormal, leadingNumberOfText_append hwritten htail.goesOn]

/-- A number with a decimal comma is read when no other comma and no point follows. -/
theorem leadingNumber_of_comma (hcomma : ',' ∈ n.render) (hs : s.BeginsBlank)
    (hmarks : ',' ∉ s ∧ '.' ∉ s) :
    (Cell.text (n.render ++ s)).leadingNumber = .ok (.ofNumeral n.numeral) := by
  obtain ⟨digits, hdecimals⟩ := n.exists_of_comma_mem hcomma
  obtain ⟨-, -, hdigits⟩ := n.decimals_written _ _ hdecimals
  have hafter : ',' ∉ digits ++ Text.trimRight s ∧ '.' ∉ digits ++ Text.trimRight s := by
    simp [Numeral.not_mem_of_digits hdigits,
      Text.mem_trimRight_iff (by decide : Text.isBlank ',' = false),
      Text.mem_trimRight_iff (by decide : Text.isBlank '.' = false), hmarks]
  have hpointed : n.pointed = (n.sign ++ n.whole) ++ '.' :: digits := by
    rw [pointed, hdecimals, List.append_assoc]
    rfl
  have hnormal : Numeral.normalizeDecimal (n.render ++ Text.trimRight s) =
      n.pointed ++ Text.trimRight s := by
    rw [n.render_of_comma hdecimals, hpointed, List.append_assoc, List.cons_append,
      Numeral.normalizeDecimal_comma n.not_mem_front hafter, List.append_assoc (n.sign ++ n.whole),
      List.cons_append]
  rw [Cell.leadingNumber, Text.trim_append_of_forall n.isBlank_of_mem_render n.render_ne_nil,
    hnormal, leadingNumberOfText_append n.numeral_writtenAs hs.trimRight.goesOn]

/-- With another comma or a point behind it, a number with a comma is read up to its comma. -/
theorem leadingNumber_of_marks (hcomma : ',' ∈ n.render) (hmarks : ',' ∈ s ∨ '.' ∈ s) :
    (Cell.text (n.render ++ s)).leadingNumber = .ok (.ofNumeral n.truncate.numeral) := by
  obtain ⟨digits, hdecimals⟩ := n.exists_of_comma_mem hcomma
  have hsplit := n.render_of_comma hdecimals
  have hkeep : (n.render ++ Text.trimRight s).count ',' ≠ 1 ∨
      '.' ∈ n.render ++ Text.trimRight s := by
    rcases hmarks with hmark | hmark
    · left
      have hmore := List.count_pos_iff.mpr
        ((Text.mem_trimRight_iff (by decide : Text.isBlank ',' = false)).mpr hmark)
      have hone := List.count_pos_iff.mpr hcomma
      rw [List.count_append]
      omega
    · right
      exact List.mem_append_right _
        ((Text.mem_trimRight_iff (by decide : Text.isBlank '.' = false)).mpr hmark)
  have hwritten := n.truncate.numeral_writtenAs
  have htext : n.truncate.pointed = n.sign ++ n.whole := by
    simp [pointed, truncate, decimalsText]
  rw [htext] at hwritten
  rw [Cell.leadingNumber, Text.trim_append_of_forall n.isBlank_of_mem_render n.render_ne_nil,
    Numeral.normalizeDecimal_eq_self hkeep, hsplit, List.append_assoc, List.cons_append,
    leadingNumberOfText_append hwritten]
  intro c hc
  obtain rfl := Option.some.inj hc
  decide

/-- A number by itself is read. -/
theorem leadingNumber_render :
    (Cell.text n.render).leadingNumber = .ok (.ofNumeral n.numeral) := by
  by_cases hcomma : ',' ∈ n.render
  · simpa using n.leadingNumber_of_comma hcomma Text.beginsBlank_nil (by simp)
  · simpa using n.leadingNumber_of_comma_not_mem hcomma Text.beginsBlank_nil

/-- The number at the beginning of a text is read and what follows behind a blank does not
change it, unless its decimal mark is a comma and there is a comma or a point in what follows:
then it is read up to its own comma. -/
theorem leadingNumber_append (hs : s.BeginsBlank) :
    (Cell.text n.render).leadingNumber = .ok (.ofNumeral n.numeral) ∧
      (Cell.text (n.render ++ s)).leadingNumber =
        if ',' ∈ n.render ∧ (',' ∈ s ∨ '.' ∈ s) then (Cell.text n.truncate.render).leadingNumber
        else (Cell.text n.render).leadingNumber := by
  refine ⟨n.leadingNumber_render, ?_⟩
  rw [leadingNumber_render, leadingNumber_render]
  split
  · next h => exact n.leadingNumber_of_marks h.1 h.2
  · next h =>
    by_cases hcomma : ',' ∈ n.render
    · exact n.leadingNumber_of_comma hcomma hs (by simpa [hcomma] using h)
    · exact n.leadingNumber_of_comma_not_mem hcomma hs

/-- The first of two numbers with commas is read up to its comma. -/
theorem leadingNumber_two_commas :
    ∃ n : WrittenNumber, n.render = "1,5".toList ∧ Text.BeginsBlank " 2,5".toList ∧
      (Cell.text (n.render ++ " 2,5".toList)).leadingNumber =
        (Cell.text "1".toList).leadingNumber := by
  let n : WrittenNumber :=
    ⟨false, [], .absent, ['1'], by decide, by decide, some (',', ['5']), by simp; decide⟩
  have hblank : Text.BeginsBlank " 2,5".toList := Text.beginsBlank_space _
  exact ⟨n, rfl, hblank, (n.leadingNumber_append hblank).2⟩

/-- A number with a comma behind a number with a comma changes what is read. -/
theorem leadingNumber_second_comma_counts :
    (Cell.text ("1,5".toList ++ " 2,5".toList)).leadingNumber ≠
      (Cell.text "1,5".toList).leadingNumber := by
  decide +kernel

end WrittenNumber

end Rowscript
