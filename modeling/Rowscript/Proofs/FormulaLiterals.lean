import Rowscript.Cell.Literal
import Rowscript.Proofs.NumberTokens
import Rowscript.Proofs.Ranges

/-!
# The literal of a value

A value is put into a formula as one complete literal: as the empty string, a date, a truth
value, a number or a percentage, or a string with its quotes doubled. Which of them it is depends
on the text that is displayed for the value, without the blanks around it, and every value has
exactly one literal. So nothing in a value is ever read as a part of the formula around it.
-/

namespace Rowscript

namespace Text

/-- Reads a text in which every quote is written twice. A quote that stands alone is refused. -/
def undouble (quote : Char) : Text → Option Text
  | [] => some []
  | [c] => if c = quote then none else some [c]
  | c :: d :: rest =>
    if c ≠ quote then (undouble quote (d :: rest)).map (c :: ·)
    else if d = quote then (undouble quote rest).map (quote :: ·)
    else none

/-- A character other than the quote stands for itself. -/
theorem undouble_cons_of_ne {quote c : Char} (hc : c ≠ quote) (t : Text) :
    undouble quote (c :: t) = (undouble quote t).map (c :: ·) := by
  cases t with
  | nil => simp [undouble, hc]
  | cons d t => rw [undouble, if_pos hc]

/-- Two quotes stand for one. -/
theorem undouble_cons_self (quote : Char) (t : Text) :
    undouble quote (quote :: quote :: t) = (undouble quote t).map (quote :: ·) := by
  simp [undouble]

/-- A text is read from itself with its quotes doubled, and from nothing else. -/
theorem undouble_eq_some_iff {quote : Char} {written t : Text} :
    undouble quote written = some t ↔ written = double quote t := by
  constructor
  · intro h
    fun_induction undouble quote written generalizing t with
    | case1 => rw [← Option.some.inj h]; rfl
    | case2 => simp at h
    | case3 c hc => rw [← Option.some.inj h, double_cons_of_ne hc]; rfl
    | case4 c d rest hc ih =>
      obtain ⟨tail, htail, rfl⟩ := Option.map_eq_some_iff.mp h
      rw [double_cons_of_ne hc, ih htail]
    | case5 c rest hc ih =>
      obtain ⟨tail, htail, rfl⟩ := Option.map_eq_some_iff.mp h
      rw [double_cons_self, ih htail, not_not.mp hc]
    | case6 => simp at h
  · rintro rfl
    induction t with
    | nil => rfl
    | cons c t ih =>
      by_cases hc : c = quote
      · rw [hc, double_cons_self, undouble_cons_self, ih]
        rfl
      · rw [double_cons_of_ne hc, undouble_cons_of_ne hc, ih]
        rfl

/-- Digits, as many as one of the given numbers. -/
def IsDigits (counts : List Nat) (t : Text) : Prop :=
  (∀ c ∈ t, isDigit c = true) ∧ t.length ∈ counts

end Text

namespace Numeral

/-- A text with its decimal comma written as a point: any text as it is, and a text with one
comma and no point with a point in the place of the comma. -/
inductive WithPoint : Text → Text → Prop where
  | same (t : Text) : WithPoint t t
  | comma {before after : Text} (hbefore : ',' ∉ before ∧ '.' ∉ before)
      (hafter : ',' ∉ after ∧ '.' ∉ after) :
      WithPoint (before ++ ',' :: after) (before ++ '.' :: after)

/-- Turning a decimal comma into a point changes nothing but that comma. -/
theorem withPoint_normalizeDecimal (t : Text) : WithPoint t (normalizeDecimal t) := by
  by_cases hcomma : t.count ',' = 1 ∧ '.' ∉ t
  · obtain ⟨hcount, hpoint⟩ := hcomma
    obtain ⟨before, after, rfl⟩ : ∃ before after, t = before ++ ',' :: after :=
      List.append_of_mem (List.count_pos_iff.mp (by omega))
    rw [List.count_append, List.count_cons_self] at hcount
    have hnone : ',' ∉ before ∧ ',' ∉ after :=
      ⟨List.count_eq_zero.mp (by omega), List.count_eq_zero.mp (by omega)⟩
    simp only [List.mem_append, List.mem_cons, not_or] at hpoint
    have hbefore : ',' ∉ before ∧ '.' ∉ before := ⟨hnone.1, hpoint.1⟩
    have hafter : ',' ∉ after ∧ '.' ∉ after := ⟨hnone.2, hpoint.2.2⟩
    rw [normalizeDecimal_comma hbefore hafter]
    exact .comma hbefore hafter
  · rw [normalizeDecimal_eq_self (by simpa [or_iff_not_imp_left] using hcomma)]
    exact .same t

/-- A text without a comma is as it is. -/
theorem WithPoint.eq_of_not_mem {t written : Text} (h : WithPoint t written) (hcomma : ',' ∉ t) :
    written = t := by
  cases h with
  | same => rfl
  | comma _ _ => simp at hcomma

/-- A text in which there is no comma is the only one with its decimal comma as a point. -/
theorem WithPoint.eq_normalizeDecimal {t written : Text} (h : WithPoint t written)
    (hcomma : ',' ∉ written) : written = normalizeDecimal t := by
  cases h with
  | same =>
    refine (normalizeDecimal_eq_self (.inl ?_)).symm
    rw [List.count_eq_zero.mpr hcomma]
    decide
  | comma hbefore hafter => exact (normalizeDecimal_comma hbefore hafter).symm

/-- A trimmed text stays trimmed when its decimal comma is written as a point. -/
theorem trim_normalizeDecimal {t : Text} (h : Text.trim t = t) :
    Text.trim (normalizeDecimal t) = normalizeDecimal t := by
  have hblank : ∀ c, Text.isBlank c = false →
      Text.isBlank (if c = ',' then '.' else c) = false := by
    intro c hc
    split
    · decide
    · exact hc
  unfold normalizeDecimal
  split
  · refine Text.trim_eq_self_of_ends ?_ ?_
    · rw [List.head?_map]
      rintro _ hc
      obtain ⟨c, hhead, rfl⟩ := Option.map_eq_some_iff.mp hc
      obtain ⟨rest, rfl⟩ := List.head?_eq_some_iff.mp hhead
      exact hblank c (Text.isBlank_eq_false_of_trim h)
    · rw [List.getLast?_map]
      rintro _ hc
      obtain ⟨c, hlast, rfl⟩ := Option.map_eq_some_iff.mp hc
      exact hblank c (Text.isBlank_eq_false_of_getLast? h hlast)
  · exact h

end Numeral

namespace Cell

/-- A number, or a percentage: a number with a percent sign behind it and perhaps blanks
between them. -/
inductive Quantity : Text → Prop where
  | number {n : Numeral} {written : Text} (hwritten : n.WrittenAs written) : Quantity written
  | percentage {n : Numeral} {written blanks : Text} (hwritten : n.WrittenAs written)
      (hblanks : ∀ c ∈ blanks, Text.isBlank c = true) : Quantity (written ++ blanks ++ ['%'])

/-- No comma stands in a quantity. -/
theorem Quantity.comma_not_mem {t : Text} (h : Quantity t) : ',' ∉ t := by
  cases h with
  | number hwritten => exact Text.not_mem_of_forall (by decide) hwritten.chars
  | percentage hwritten hblanks =>
    have hnumber := Text.not_mem_of_forall (c := ',') (by decide) hwritten.chars
    have hbetween := Text.not_mem_of_forall (c := ',') (by decide) hblanks
    simp [hnumber, hbetween]

/-- A trimmed text is a quantity exactly when it is a number apart from one percent sign. -/
theorem isNumeric_dropPercent_iff {t : Text} (htrim : Text.trim t = t) :
    Numeral.isNumeric (dropPercent t) = true ↔ Quantity t := by
  rw [Numeral.isNumeric_iff]
  constructor
  · rintro ⟨n, hn⟩
    unfold dropPercent at hn
    split at hn
    · next hlast =>
      obtain ⟨front, rfl⟩ := List.getLast?_eq_some_iff.mp hlast
      rw [List.dropLast_concat] at hn
      cases front with
      | nil => exact absurd (Numeral.isNumeric_iff.mpr ⟨n, hn⟩) (by decide)
      | cons c rest =>
        have hc : Text.isBlank c = false := Text.isBlank_eq_false_of_trim htrim
        obtain ⟨blanks, hblanks, hfront⟩ := Text.exists_trimRight_append (c :: rest)
        rw [hfront]
        rw [Text.trim, Text.trimLeft_cons hc] at hn
        exact .percentage hn hblanks
    · rw [htrim] at hn
      exact .number hn
  · rintro (⟨hwritten⟩ | ⟨hwritten, hblanks⟩)
    · have hpercent := Text.not_mem_of_forall (c := '%') (by decide) hwritten.chars
      have hlast : t.getLast? ≠ some '%' := fun h => hpercent (List.mem_of_getLast? h)
      rw [dropPercent, if_neg hlast, htrim]
      exact ⟨_, hwritten⟩
    · rw [dropPercent, if_pos (by simp), List.dropLast_concat, Text.trim_append_blanks hblanks,
        hwritten.trim_eq]
      exact ⟨_, hwritten⟩

/-- A date as it is written: the day, the month and the year in digits, with slashes or dashes
between them. -/
inductive DateText : Text → Text → Text → Text → Prop where
  | parts {day month year : Text} {first second : Char} (hday : Text.IsDigits [1, 2] day)
      (hmonth : Text.IsDigits [1, 2] month) (hyear : Text.IsDigits [4] year)
      (hfirst : first = '/' ∨ first = '-') (hsecond : second = '/' ∨ second = '-') :
      DateText (day ++ first :: (month ++ second :: year)) day month year

/-- The separators of a date do not go on with its digits. -/
theorem isDigit_separator {c : Char} (hc : c = '/' ∨ c = '-') (rest : Text) :
    ∀ d ∈ (c :: rest).head?, Text.isDigit d = false := by
  intro d hd
  obtain rfl := Option.some.inj hd
  rcases hc with rfl | rfl <;> decide

/-- A text is read as a date exactly when it is written as one. -/
theorem dayMonthYear?_eq_some_iff {t : Text} {date : Nat × Nat × Nat} :
    dayMonthYear? t = some date ↔ ∃ day month year, DateText t day month year ∧
      date = (Text.digitsValue day, Text.digitsValue month, Text.digitsValue year) := by
  constructor
  · intro h
    obtain ⟨hday, hrest⟩ := Numeral.scanDigits_sound t
    unfold dayMonthYear? at h
    generalize Numeral.scanDigits t = scanned at h hday hrest
    obtain ⟨day, rest⟩ := scanned
    dsimp only at h hday hrest
    split at h
    · next first rest =>
      obtain ⟨hmonth, hmore⟩ := Numeral.scanDigits_sound rest
      generalize Numeral.scanDigits rest = scanned at h hmonth hmore
      obtain ⟨month, more⟩ := scanned
      dsimp only at h hmonth hmore
      split at h
      · next second more =>
        obtain ⟨hyear, hend⟩ := Numeral.scanDigits_sound more
        generalize Numeral.scanDigits more = scanned at h hyear hend
        obtain ⟨year, tail⟩ := scanned
        dsimp only at h hyear hend
        split at h
        · next hform =>
          simp only [Bool.and_eq_true, Bool.or_eq_true, decide_eq_true_eq] at hform
          obtain ⟨⟨⟨⟨⟨hfirst, hsecond⟩, hdays⟩, hmonths⟩, hyears⟩, rfl⟩ := hform
          rw [List.append_nil] at hend
          subst hend hmore hrest
          exact ⟨day, month, more, .parts ⟨hday, by simpa using hdays⟩
            ⟨hmonth, by simpa using hmonths⟩ ⟨hyear, by simpa using hyears⟩ hfirst hsecond,
            (Option.some.inj h).symm⟩
        · simp at h
      · simp at h
    · simp at h
  · rintro ⟨day, month, year, hdate, rfl⟩
    cases hdate with
    | @parts _ _ _ first second hday hmonth hyear hfirst hsecond =>
      have hdays : day.length = 1 ∨ day.length = 2 := by simpa using hday.2
      have hmonths : month.length = 1 ∨ month.length = 2 := by simpa using hmonth.2
      have hyears : year.length = 4 := by simpa using hyear.2
      rw [dayMonthYear?, Numeral.scanDigits_append hday.1 (isDigit_separator hfirst _)]
      dsimp only
      rw [Numeral.scanDigits_append hmonth.1 (isDigit_separator hsecond _)]
      dsimp only
      rw [Numeral.scanDigits_eq_self hyear.1]
      simp [hfirst, hsecond, hdays, hmonths, hyears]

/-- A date holds no comma and no percent sign. -/
theorem DateText.not_mem {t day month year : Text} (h : DateText t day month year) :
    ',' ∉ t ∧ '%' ∉ t := by
  cases h with
  | parts hday hmonth hyear hfirst hsecond =>
    have hdigits : ∀ {c : Char}, Text.isDigit c = false → c ∉ day ∧ c ∉ month ∧ c ∉ year :=
      fun hc => ⟨Text.not_mem_of_forall hc hday.1, Text.not_mem_of_forall hc hmonth.1,
        Text.not_mem_of_forall hc hyear.1⟩
    have hcomma := hdigits (c := ',') (by decide)
    have hpercent := hdigits (c := '%') (by decide)
    rcases hfirst with rfl | rfl <;> rcases hsecond with rfl | rfl <;> simp [hcomma, hpercent]

/-- A date is no quantity: a number would end in front of its first separator. -/
theorem Quantity.not_dateText {t day month year : Text} (h : Quantity t) :
    ¬ DateText t day month year := by
  intro hdate
  have hpercent := hdate.not_mem.2
  cases h with
  | percentage _ _ => simp at hpercent
  | @number n _ hwritten =>
    cases hdate with
    | @parts _ _ _ first second hday hmonth hyear hfirst hsecond =>
      have hwhole := hwritten.scan?_eq
      have hne : day ≠ [] := by
        rintro rfl
        simpa using hday.2
      have hnumber := (Numeral.MantissaWritten.whole hne hday.1).writtenAs
      have hstop : ∀ c ∈ (first :: (month ++ second :: year)).head?, Numeral.goesOn c = false := by
        intro c hc
        obtain rfl := Option.some.inj hc
        rcases hfirst with rfl | rfl <;> decide
      have hpart := hnumber.scan?_append hstop
      rw [hwhole] at hpart
      simp at hpart

/-- A value without a displayed text is put into formulas as the empty string. -/
theorem formulaLiteral_of_empty {value : Cell} (h : Text.trim value.display = []) :
    value.formulaLiteral = ['"', '"'] := by
  unfold formulaLiteral
  exact if_pos h

/-- A value that is displayed as a date is put into formulas as one. -/
theorem formulaLiteral_of_date {value : Cell} {day month year : Nat}
    (h : dayMonthYear? (Text.trim value.display) = some (day, month, year)) :
    value.formulaLiteral = dateFormula year month day := by
  have hsome : Text.trim value.display ≠ [] := by
    intro hnil
    rw [hnil] at h
    exact absurd h (by simp [dayMonthYear?, Numeral.scanDigits])
  unfold formulaLiteral
  rw [if_neg hsome, h]

/-- Any other value that is no truth value is put into formulas as a number or a string. -/
theorem formulaLiteral_of_plain {value : Cell} (hsome : Text.trim value.display ≠ [])
    (hdate : dayMonthYear? (Text.trim value.display) = none) (htruth : ∀ b, value ≠ .bool b) :
    value.formulaLiteral = numberOrString (Text.trim value.display) := by
  unfold formulaLiteral
  rw [if_neg hsome, hdate]
  cases value with
  | bool b => exact absurd rfl (htruth b)
  | _ => rfl

/-- The literal of a value whose text is displayed as a quantity, with a comma or a point. -/
theorem formulaLiteral_of_quantity {value : Cell} {t : Text} (h : Quantity t)
    (hpoint : Numeral.WithPoint (Text.trim value.display) t) : value.formulaLiteral = t := by
  have hnormal := hpoint.eq_normalizeDecimal h.comma_not_mem
  have htrim := Numeral.trim_normalizeDecimal (Text.trim_trim value.display)
  have hnumeric : Numeral.isNumeric (dropPercent t) = true := by
    rw [hnormal] at h ⊢
    exact (isNumeric_dropPercent_iff htrim).mpr h
  have hsome : Text.trim value.display ≠ [] := by
    intro hnil
    rw [hnil] at hnormal
    rw [hnormal] at hnumeric
    exact absurd hnumeric (by decide)
  have hdate : dayMonthYear? (Text.trim value.display) = none := by
    rw [Option.eq_none_iff_forall_not_mem]
    intro date hread
    obtain ⟨day, month, year, hdate, -⟩ := dayMonthYear?_eq_some_iff.mp hread
    rw [hpoint.eq_of_not_mem hdate.not_mem.1] at h
    exact h.not_dateText hdate
  have htruth : ∀ b, value ≠ .bool b := by
    rintro b rfl
    cases b <;> exact absurd (hnormal ▸ hnumeric) (by decide)
  rw [formulaLiteral_of_plain hsome hdate htruth, numberOrString, ← hnormal, if_pos hnumeric]

/-- The literals of a value. Which one it has depends on the text that is displayed for it,
without the blanks around it. -/
inductive LiteralFor (value : Cell) : Text → Prop where
  /-- The empty string stands for nothing displayed. -/
  | empty (hnone : Text.trim value.display = []) : LiteralFor value ['"', '"']
  /-- A date is made of the numbers of its year, its month and its day. -/
  | date {day month year : Text} (hdate : DateText (Text.trim value.display) day month year) :
      LiteralFor value ("DATE(".toList ++ Number.renderNat (Text.digitsValue year) ++ [','] ++
        Number.renderNat (Text.digitsValue month) ++ [','] ++
        Number.renderNat (Text.digitsValue day) ++ [')'])
  /-- A truth value is its word. -/
  | truth {b : Bool} (hvalue : value = .bool b) :
      LiteralFor value (if b then "TRUE".toList else "FALSE".toList)
  /-- A number or a percentage stands for itself, with its decimal comma as a point. -/
  | quantity {t : Text} (hquantity : Quantity t)
      (hpoint : Numeral.WithPoint (Text.trim value.display) t) : LiteralFor value t
  /-- Anything else is a string: between its quotes every quote is doubled. -/
  | string {inside : Text} (hsome : Text.trim value.display ≠ [])
      (hdate : ∀ day month year, ¬ DateText (Text.trim value.display) day month year)
      (htruth : ∀ b, value ≠ .bool b)
      (hquantity : ∀ t, Quantity t → ¬ Numeral.WithPoint (Text.trim value.display) t)
      (hinside : Text.undouble '"' inside = some (Text.trim value.display)) :
      LiteralFor value ('"' :: inside ++ ['"'])

/-- A value has no other literal than the one that is put into formulas. -/
theorem LiteralFor.eq_formulaLiteral {value : Cell} {literal : Text}
    (h : value.LiteralFor literal) : literal = value.formulaLiteral := by
  cases h with
  | empty hnone => exact (formulaLiteral_of_empty hnone).symm
  | date hdate =>
    exact (formulaLiteral_of_date (dayMonthYear?_eq_some_iff.mpr ⟨_, _, _, hdate, rfl⟩)).symm
  | @truth b hvalue =>
    subst hvalue
    cases b <;> decide
  | quantity hquantity hpoint => exact (formulaLiteral_of_quantity hquantity hpoint).symm
  | @string inside hsome hdate htruth hquantity hinside =>
    have hread : dayMonthYear? (Text.trim value.display) = none := by
      rw [Option.eq_none_iff_forall_not_mem]
      intro date hread
      obtain ⟨day, month, year, hdateText, -⟩ := dayMonthYear?_eq_some_iff.mp hread
      exact hdate day month year hdateText
    have hnumeric : ¬ Numeral.isNumeric
        (dropPercent (Numeral.normalizeDecimal (Text.trim value.display))) = true := by
      rw [isNumeric_dropPercent_iff (Numeral.trim_normalizeDecimal (Text.trim_trim _))]
      exact fun h => hquantity _ h (Numeral.withPoint_normalizeDecimal _)
    rw [formulaLiteral_of_plain hsome hread htruth, numberOrString, if_neg hnumeric,
      Text.undouble_eq_some_iff.mp hinside]
    rfl

/-- What is put into formulas for a value is a literal of it. -/
theorem literalFor_formulaLiteral (value : Cell) : value.LiteralFor value.formulaLiteral := by
  by_cases hnone : Text.trim value.display = []
  · exact formulaLiteral_of_empty hnone ▸ .empty hnone
  by_cases hdate : ∃ day month year, DateText (Text.trim value.display) day month year
  · obtain ⟨day, month, year, hdate⟩ := hdate
    exact (LiteralFor.date hdate).eq_formulaLiteral ▸ .date hdate
  by_cases htruth : ∃ b, value = .bool b
  · obtain ⟨b, hvalue⟩ := htruth
    exact (LiteralFor.truth hvalue).eq_formulaLiteral ▸ .truth hvalue
  by_cases hquantity : ∃ t, Quantity t ∧ Numeral.WithPoint (Text.trim value.display) t
  · obtain ⟨t, hquantity, hpoint⟩ := hquantity
    exact (LiteralFor.quantity hquantity hpoint).eq_formulaLiteral ▸ .quantity hquantity hpoint
  · have hstring := LiteralFor.string hnone (by simpa using hdate) (by simpa using htruth)
      (by simpa using hquantity) (Text.undouble_eq_some_iff.mpr rfl)
    exact hstring.eq_formulaLiteral ▸ hstring

/-- Only a value without a displayed text has the empty string as a literal. -/
theorem LiteralFor.eq_nil_of_empty {value : Cell} (h : value.LiteralFor ['"', '"']) :
    Text.trim value.display = [] := by
  generalize hliteral : (['"', '"'] : Text) = literal at h
  cases h with
  | empty hnone => exact hnone
  | date hdate => simp at hliteral
  | @truth b _ => cases b <;> simp at hliteral
  | quantity hquantity _ =>
    rw [← hliteral] at hquantity
    exact absurd ((isNumeric_dropPercent_iff (by decide)).mpr hquantity) (by decide)
  | @string inside _ _ _ _ hinside =>
    have hnil : inside = [] := by simpa using hliteral.symm
    rw [hnil] at hinside
    exact (Option.some.inj hinside).symm

/-- Only a truth value has its word as a literal. -/
theorem LiteralFor.eq_bool_of_truth {value : Cell} {b : Bool}
    (h : value.LiteralFor (if b then "TRUE".toList else "FALSE".toList)) : value = .bool b := by
  generalize hliteral : (if b then "TRUE".toList else "FALSE".toList) = literal at h
  cases h with
  | empty _ => cases b <;> simp at hliteral
  | date _ => cases b <;> simp at hliteral
  | @truth c hvalue =>
    have hwords : b = c := by cases b <;> cases c <;> simp at hliteral ⊢
    exact hwords ▸ hvalue
  | quantity hquantity _ =>
    rw [← hliteral] at hquantity
    cases b <;>
      exact absurd ((isNumeric_dropPercent_iff (by decide)).mpr hquantity) (by decide)
  | string _ _ _ _ _ => cases b <;> simp at hliteral

/-- Every value is put into a formula as one complete literal, and it has no other one: the empty
string, a date, a truth value, a number or a percentage, or a string whose doubled quotes
give back its text. The empty string stands for values without a displayed text only, and the
words without quotes stand for truth values only. -/
theorem formulaLiteral_complete (value : Cell) :
    (∀ literal, value.LiteralFor literal ↔ literal = value.formulaLiteral) ∧
      (value.formulaLiteral = ['"', '"'] ↔ Text.trim value.display = []) ∧
      ∀ b, value.formulaLiteral = (if b then "TRUE".toList else "FALSE".toList) ↔
        value = .bool b := by
  have hliteral := literalFor_formulaLiteral value
  refine ⟨fun literal => ⟨LiteralFor.eq_formulaLiteral, ?_⟩, ⟨fun h => ?_, ?_⟩,
    fun b => ⟨fun h => ?_, ?_⟩⟩
  · rintro rfl
    exact hliteral
  · exact (h ▸ hliteral).eq_nil_of_empty
  · exact formulaLiteral_of_empty
  · exact (h ▸ hliteral).eq_bool_of_truth
  · exact fun h => (LiteralFor.truth h).eq_formulaLiteral.symm

/-- A percentage keeps the blanks in it, and a text of two numbers is a string. -/
example : (Cell.text " 4,5 % ".toList).formulaLiteral = "4.5 %".toList ∧
    (Cell.text "4,5 \"x\"".toList).formulaLiteral = "\"4,5 \"\"x\"\"\"".toList := by
  decide +kernel

end Cell

end Rowscript
