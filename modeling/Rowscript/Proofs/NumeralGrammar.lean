import Mathlib.Data.List.TakeDrop
import Rowscript.Number.Numeral
import Rowscript.Proofs.Trimming

/-!
# How numerals are written

A numeral is perhaps a sign, then digits with perhaps a point before, among or behind them, and
perhaps an exponent. The scanner takes nothing but numerals from the beginning of a text, and in
front of a character that no numeral goes on with it takes all that is written of one. So a
text is read as a number exactly when it is a numeral between blanks.
-/

namespace Rowscript

namespace Text

/-- A decimal digit is one of the ten characters from the zero of its script on. -/
theorem exists_first_of_isDigit {c : Char} (h : isDigit c = true) :
    ∃ first ∈ 0x30 :: digitZeros, ∃ k < 10, c.toNat = first + k := by
  unfold isDigit digitValue? at h
  split at h
  · split at h
    · next hrange =>
      simp only [Bool.and_eq_true, decide_eq_true_eq] at hrange
      exact ⟨0x30, List.mem_cons_self, c.toNat - 0x30, by omega, by omega⟩
    · simp at h
  · rw [Option.isSome_map, List.find?_isSome] at h
    obtain ⟨first, hfirst, hrange⟩ := h
    simp only [Bool.and_eq_true, decide_eq_true_eq] at hrange
    exact ⟨first, List.mem_cons_of_mem _ hfirst, c.toNat - first, by omega, by omega⟩

/-- What holds of the ten digits of every script holds of every decimal digit. -/
theorem of_isDigit {P : Char → Prop}
    (hP : ∀ first ∈ 0x30 :: digitZeros, ∀ k < 10, P (Char.ofNat (first + k))) {c : Char}
    (h : isDigit c = true) : P c := by
  obtain ⟨first, hfirst, k, hk, hc⟩ := exists_first_of_isDigit h
  have hdigit := hP first hfirst k hk
  rwa [← hc, Char.ofNat_toNat] at hdigit

/-- No script has its digits among the blanks. -/
theorem isBlank_of_isDigit {c : Char} (h : isDigit c = true) : isBlank c = false :=
  of_isDigit (P := fun c => isBlank c = false) (by decide +kernel) h

/-- A text without blanks is not changed by trimming it. -/
theorem trim_eq_self {t : Text} (h : ∀ c ∈ t, isBlank c = false) : trim t = t :=
  trim_eq_self_of_ends (fun c hc => h c (List.mem_of_head? hc))
    fun c hc => h c (List.mem_of_getLast? hc)

end Text

namespace Numeral

/-- The ways to write a sign, and whether it is a minus. -/
inductive SignWritten : Bool → Text → Prop where
  | absent : SignWritten false []
  | plus : SignWritten false ['+']
  | minus : SignWritten true ['-']

/-- A sign is one of two characters, or there is none and no minus. -/
theorem SignWritten.eq_or {negative : Bool} {sign : Text} (h : SignWritten negative sign) :
    sign = [] ∧ negative = false ∨ ∃ c, (c = '+' ∨ c = '-') ∧ sign = [c] := by
  cases h with
  | absent => exact .inl ⟨rfl, rfl⟩
  | plus => exact .inr ⟨'+', .inl rfl, rfl⟩
  | minus => exact .inr ⟨'-', .inr rfl, rfl⟩

/-- The characters of a sign. -/
theorem SignWritten.mem {negative : Bool} {sign : Text} (h : SignWritten negative sign) :
    ∀ c ∈ sign, c = '+' ∨ c = '-' := by
  cases h <;> decide

/-- The ways to write the digits before and after the point. -/
inductive MantissaWritten : Text → Text → Text → Prop where
  | whole {whole : Text} (hne : whole ≠ []) (hwhole : ∀ c ∈ whole, Text.isDigit c = true) :
      MantissaWritten whole [] whole
  | point {whole fraction : Text} (hne : whole ≠ [])
      (hwhole : ∀ c ∈ whole, Text.isDigit c = true)
      (hfraction : ∀ c ∈ fraction, Text.isDigit c = true) :
      MantissaWritten whole fraction (whole ++ '.' :: fraction)
  | leadingPoint {fraction : Text} (hne : fraction ≠ [])
      (hfraction : ∀ c ∈ fraction, Text.isDigit c = true) :
      MantissaWritten [] fraction ('.' :: fraction)

/-- The ways to write an exponent. -/
inductive ExponentWritten : Option (Bool × Text) → Text → Prop where
  | absent : ExponentWritten none []
  | present {mark : Char} {negative : Bool} {sign digits : Text} (hmark : mark = 'e' ∨ mark = 'E')
      (hsign : SignWritten negative sign) (hne : digits ≠ [])
      (hdigits : ∀ c ∈ digits, Text.isDigit c = true) :
      ExponentWritten (some (negative, digits)) (mark :: (sign ++ digits))

/-- The ways to write a numeral: its parts follow one another. -/
inductive WrittenAs : Numeral → Text → Prop where
  | parts {negative : Bool} {whole fraction : Text} {exponent : Option (Bool × Text)}
      {sign mantissa mark : Text} (hsign : SignWritten negative sign)
      (hmantissa : MantissaWritten whole fraction mantissa)
      (hexponent : ExponentWritten exponent mark) :
      WrittenAs ⟨negative, whole, fraction, exponent⟩ (sign ++ (mantissa ++ mark))

/-- Digits around a point are a numeral without a sign and an exponent. -/
theorem MantissaWritten.writtenAs {whole fraction mantissa : Text}
    (h : MantissaWritten whole fraction mantissa) :
    WrittenAs ⟨false, whole, fraction, none⟩ mantissa := by
  simpa using WrittenAs.parts .absent h .absent

section Sound

variable {t rest : Text}

/-- What is taken as a sign is written as one. -/
theorem exists_signWritten (t : Text) :
    ∃ sign, SignWritten (scanSign t).1 sign ∧ t = sign ++ (scanSign t).2 := by
  unfold scanSign
  split
  · exact ⟨['-'], .minus, rfl⟩
  · exact ⟨['+'], .plus, rfl⟩
  · exact ⟨[], .absent, rfl⟩

/-- What is taken as digits are digits at the beginning. -/
theorem scanDigits_sound (t : Text) :
    (∀ c ∈ (scanDigits t).1, Text.isDigit c = true) ∧
      t = (scanDigits t).1 ++ (scanDigits t).2 := by
  rw [scanDigits, List.span_eq_takeWhile_dropWhile]
  exact ⟨fun c hc => List.mem_takeWhile_imp hc, List.takeWhile_append_dropWhile.symm⟩

/-- What is taken as digits around a point is written as such. -/
theorem exists_mantissaWritten {whole fraction : Text}
    (h : scanMantissa? t = some (whole, fraction, rest)) :
    ∃ mantissa, MantissaWritten whole fraction mantissa ∧ t = mantissa ++ rest := by
  obtain ⟨hdigits, htext⟩ := scanDigits_sound t
  unfold scanMantissa? at h
  generalize scanDigits t = scanned at h hdigits htext
  obtain ⟨digits, tail⟩ := scanned
  dsimp only at h hdigits htext
  split at h
  · next after =>
    obtain ⟨hfraction, hafter⟩ := scanDigits_sound after
    split at h
    · simp at h
    · next hne =>
      simp only [Option.some.injEq, Prod.mk.injEq] at h
      obtain ⟨rfl, rfl, rfl⟩ := h
      refine ⟨_, .leadingPoint hne hfraction, ?_⟩
      rw [htext, List.nil_append, List.cons_append, ← hafter]
  · simp at h
  · next after hne =>
    obtain ⟨hfraction, hafter⟩ := scanDigits_sound after
    simp only [Option.some.injEq, Prod.mk.injEq] at h
    obtain ⟨rfl, rfl, rfl⟩ := h
    refine ⟨_, .point (by simpa using hne) hdigits hfraction, ?_⟩
    rw [htext, List.append_assoc, List.cons_append, ← hafter]
  · next hempty _ _ =>
    simp only [Option.some.injEq, Prod.mk.injEq] at h
    obtain ⟨rfl, rfl, rfl⟩ := h
    exact ⟨_, .whole (by simpa using hempty) hdigits, htext⟩

/-- What is taken as an exponent is written as one. -/
theorem exists_exponentWritten {exponent : Bool × Text}
    (h : scanExponent? t = some (exponent, rest)) :
    ∃ mark, ExponentWritten (some exponent) mark ∧ t = mark ++ rest := by
  unfold scanExponent? at h
  split at h
  · next c after =>
    split at h
    · next hmark =>
      obtain ⟨sign, hsign, hafter⟩ := exists_signWritten after
      obtain ⟨hdigits, htext⟩ := scanDigits_sound (scanSign after).2
      dsimp only at h
      split at h
      · simp at h
      · next hne =>
        simp only [Option.some.injEq, Prod.mk.injEq] at h
        obtain ⟨rfl, rfl⟩ := h
        refine ⟨_, .present (by simpa using hmark) hsign hne hdigits, ?_⟩
        rw [List.cons_append, List.append_assoc, ← htext, ← hafter]
    · simp at h
  · simp at h

/-- What is taken as a numeral is written as one. -/
theorem exists_writtenAs {n : Numeral} (h : scan? t = some (n, rest)) :
    ∃ written, n.WrittenAs written ∧ t = written ++ rest := by
  obtain ⟨sign, hsign, htext⟩ := exists_signWritten t
  unfold scan? at h
  generalize scanSign t = scanned at h hsign htext
  obtain ⟨negative, unsigned⟩ := scanned
  obtain ⟨⟨whole, fraction, after⟩, hscan, hparts⟩ := Option.map_eq_some_iff.mp h
  obtain ⟨mantissa, hmantissa, rfl⟩ := exists_mantissaWritten hscan
  dsimp only at hparts hsign htext
  split at hparts
  · next exponent tail hexponent =>
    obtain ⟨mark, hmark, rfl⟩ := exists_exponentWritten hexponent
    obtain ⟨rfl, rfl⟩ := Prod.mk.inj hparts
    exact ⟨_, .parts hsign hmantissa hmark, by simp [htext]⟩
  · obtain ⟨rfl, rfl⟩ := Prod.mk.inj hparts
    exact ⟨_, .parts hsign hmantissa .absent, by simp [htext]⟩

end Sound

/-- The characters that a numeral may go on with. -/
def goesOn (c : Char) : Bool := Text.isDigit c || c = '.' || c = 'e' || c = 'E'

section Complete

variable {rest : Text}

/-- Digits are read up to the first character that is none. -/
theorem scanDigits_append {digits rest : Text} (hdigits : ∀ c ∈ digits, Text.isDigit c = true)
    (hrest : ∀ c ∈ rest.head?, Text.isDigit c = false) :
    scanDigits (digits ++ rest) = (digits, rest) := by
  rw [scanDigits, List.span_eq_takeWhile_dropWhile, List.takeWhile_append_of_pos hdigits,
    List.dropWhile_append_of_pos hdigits]
  cases rest with
  | nil => simp
  | cons c rest =>
    have hc : Text.isDigit c = false := hrest c rfl
    simp [hc]

/-- Digits are read as a whole. -/
theorem scanDigits_eq_self {digits : Text} (hdigits : ∀ c ∈ digits, Text.isDigit c = true) :
    scanDigits digits = (digits, []) := by
  rw [scanDigits, List.span_eq_takeWhile_dropWhile, List.takeWhile_eq_self_iff.mpr hdigits,
    List.dropWhile_eq_nil_iff.mpr hdigits]

/-- A sign is taken from the text in front of which it is written, unless that has a sign itself. -/
theorem SignWritten.scanSign_append {negative : Bool} {sign : Text} (h : SignWritten negative sign)
    (hrest : ∀ c ∈ rest.head?, c ≠ '-' ∧ c ≠ '+') :
    scanSign (sign ++ rest) = (negative, rest) := by
  cases h with
  | absent =>
    cases rest with
    | nil => rfl
    | cons c rest =>
      obtain ⟨hminus, hplus⟩ := hrest c rfl
      unfold scanSign
      split
      · next heq => exact absurd (List.cons.inj heq).1 hminus
      · next heq => exact absurd (List.cons.inj heq).1 hplus
      · rfl
  | plus => rfl
  | minus => rfl

/-- A digit or a point is not a sign. -/
theorem ne_sign_of_digit_or_point {c : Char} (hc : Text.isDigit c = true ∨ c = '.') :
    c ≠ '-' ∧ c ≠ '+' := by
  constructor <;> rintro rfl <;> exact absurd hc (by decide)

/-- Digits around a point begin with a digit or the point. -/
theorem MantissaWritten.head {whole fraction mantissa : Text}
    (h : MantissaWritten whole fraction mantissa) :
    ∃ c tail, mantissa = c :: tail ∧ (Text.isDigit c = true ∨ c = '.') := by
  have hdigit : ∀ {digits : Text}, digits ≠ [] → (∀ c ∈ digits, Text.isDigit c = true) →
      ∃ c tail, digits = c :: tail ∧ (Text.isDigit c = true ∨ c = '.') := by
    intro digits hne hdigits
    obtain ⟨c, tail, rfl⟩ := List.exists_cons_of_ne_nil hne
    exact ⟨c, tail, rfl, .inl (hdigits c List.mem_cons_self)⟩
  cases h with
  | whole hne hwhole => exact hdigit hne hwhole
  | point hne hwhole _ =>
    obtain ⟨c, tail, rfl, hc⟩ := hdigit hne hwhole
    exact ⟨c, _, rfl, hc⟩
  | leadingPoint _ _ => exact ⟨'.', _, rfl, .inr rfl⟩

/-- A sign is taken from digits around a point. -/
theorem MantissaWritten.scanSign_append {whole fraction mantissa sign : Text} {negative : Bool}
    (h : MantissaWritten whole fraction mantissa) (hsign : SignWritten negative sign)
    (rest : Text) : scanSign (sign ++ (mantissa ++ rest)) = (negative, mantissa ++ rest) := by
  obtain ⟨c, tail, hhead, hc⟩ := h.head
  refine hsign.scanSign_append fun d hd => ?_
  rw [hhead] at hd
  obtain rfl := Option.some.inj hd
  exact ne_sign_of_digit_or_point hc

/-- Digits around a point are taken as far as they are written. -/
theorem MantissaWritten.scanMantissa?_append {whole fraction mantissa : Text}
    (h : MantissaWritten whole fraction mantissa)
    (hrest : ∀ c ∈ rest.head?, Text.isDigit c = false ∧ c ≠ '.') :
    scanMantissa? (mantissa ++ rest) = some (whole, fraction, rest) := by
  have hstop : ∀ c ∈ rest.head?, Text.isDigit c = false := fun c hc => (hrest c hc).1
  have hpoint : ∀ tail : Text, ∀ c ∈ ('.' :: tail).head?, Text.isDigit c = false := by
    intro tail c hc
    obtain rfl := Option.some.inj hc
    decide
  cases h with
  | whole hne hwhole =>
    obtain ⟨d, digits, rfl⟩ := List.exists_cons_of_ne_nil hne
    rw [scanMantissa?, scanDigits_append hwhole hstop]
    cases rest with
    | nil => rfl
    | cons c rest =>
      have hc : c ≠ '.' := (hrest c rfl).2
      simp [hc]
  | point hne hwhole hfraction =>
    obtain ⟨d, digits, rfl⟩ := List.exists_cons_of_ne_nil hne
    rw [List.append_assoc, List.cons_append (a := '.'), scanMantissa?,
      scanDigits_append hwhole (hpoint _)]
    simp [scanDigits_append hfraction hstop]
  | leadingPoint hne hfraction =>
    have hnone : ∀ c ∈ ([] : Text), Text.isDigit c = true := by simp
    have hbefore := scanDigits_append hnone (hpoint (fraction ++ rest))
    rw [List.cons_append, scanMantissa?, ← List.nil_append ('.' :: _), hbefore]
    simp [scanDigits_append hfraction hstop, hne]

/-- An exponent is taken as far as it is written. -/
theorem ExponentWritten.scanExponent?_append {exponent : Bool × Text} {mark : Text}
    (h : ExponentWritten (some exponent) mark)
    (hrest : ∀ c ∈ rest.head?, Text.isDigit c = false) :
    scanExponent? (mark ++ rest) = some (exponent, rest) := by
  cases h with
  | @present c negative sign digits hmark hsign hne hdigits =>
    have hscan : scanSign (sign ++ (digits ++ rest)) = (negative, digits ++ rest) :=
      (MantissaWritten.whole hne hdigits).scanSign_append hsign rest
    rw [List.cons_append, List.append_assoc, scanExponent?, if_pos (by simpa using hmark), hscan]
    dsimp only
    rw [scanDigits_append hdigits hrest, if_neg hne]

/-- The letter of an exponent is neither a digit nor the point. -/
theorem ExponentWritten.stop {exponent : Bool × Text} {mark : Text}
    (h : ExponentWritten (some exponent) mark) :
    ∀ c ∈ (mark ++ rest).head?, Text.isDigit c = false ∧ c ≠ '.' := by
  cases h with
  | present hmark _ _ _ =>
    intro c hc
    obtain rfl := Option.some.inj hc
    rcases hmark with rfl | rfl <;> decide

/-- Without a character for it there is no exponent. -/
theorem scanExponent?_eq_none (hrest : ∀ c ∈ rest.head?, c ≠ 'e' ∧ c ≠ 'E') :
    scanExponent? rest = none := by
  cases rest with
  | nil => rfl
  | cons c rest => simp [scanExponent?, hrest c rfl]

/-- A numeral is taken as far as it is written. -/
theorem WrittenAs.scan?_append {n : Numeral} {written : Text} (h : n.WrittenAs written)
    (hrest : ∀ c ∈ rest.head?, goesOn c = false) :
    scan? (written ++ rest) = some (n, rest) := by
  have hstop : ∀ c ∈ rest.head?,
      Text.isDigit c = false ∧ c ≠ '.' ∧ c ≠ 'e' ∧ c ≠ 'E' := by
    intro c hc
    simpa [goesOn, and_assoc] using hrest c hc
  cases h with
  | @parts negative whole fraction exponent sign mantissa mark hsign hmantissa hexponent =>
    rw [List.append_assoc, List.append_assoc, scan?, hmantissa.scanSign_append hsign]
    dsimp only
    cases exponent with
    | none =>
      cases hexponent
      rw [List.nil_append, hmantissa.scanMantissa?_append fun c hc =>
        ⟨(hstop c hc).1, (hstop c hc).2.1⟩]
      simp [scanExponent?_eq_none fun c hc => (hstop c hc).2.2]
    | some exponent =>
      rw [hmantissa.scanMantissa?_append hexponent.stop]
      simp [hexponent.scanExponent?_append fun c hc => (hstop c hc).1]

/-- A numeral is taken as a whole. -/
theorem WrittenAs.scan?_eq {n : Numeral} {written : Text} (h : n.WrittenAs written) :
    scan? written = some (n, []) := by
  have hnothing : ∀ c ∈ ([] : Text).head?, goesOn c = false := by simp
  simpa using h.scan?_append hnothing

end Complete

/-- The characters that stand in numerals. -/
def isNumeralChar (c : Char) : Bool := goesOn c || c = '+' || c = '-'

/-- Digits are made of characters of numerals. -/
theorem isNumeralChar_of_digits {digits : Text} (h : ∀ c ∈ digits, Text.isDigit c = true) :
    ∀ c ∈ digits, isNumeralChar c = true := by
  intro c hc
  simp [isNumeralChar, goesOn, h c hc]

/-- A sign is made of characters of numerals. -/
theorem SignWritten.chars {negative : Bool} {sign : Text} (h : SignWritten negative sign) :
    ∀ c ∈ sign, isNumeralChar c = true := by
  intro c hc
  rcases h.mem c hc with rfl | rfl <;> decide

/-- Digits around a point are made of characters of numerals. -/
theorem MantissaWritten.chars {whole fraction mantissa : Text}
    (h : MantissaWritten whole fraction mantissa) : ∀ c ∈ mantissa, isNumeralChar c = true := by
  cases h with
  | whole _ hwhole => exact isNumeralChar_of_digits hwhole
  | point _ hwhole hfraction =>
    exact List.forall_mem_append.mpr ⟨isNumeralChar_of_digits hwhole,
      List.forall_mem_cons.mpr ⟨by decide, isNumeralChar_of_digits hfraction⟩⟩
  | leadingPoint _ hfraction =>
    exact List.forall_mem_cons.mpr ⟨by decide, isNumeralChar_of_digits hfraction⟩

/-- An exponent is made of characters of numerals. -/
theorem ExponentWritten.chars {exponent : Option (Bool × Text)} {mark : Text}
    (h : ExponentWritten exponent mark) : ∀ c ∈ mark, isNumeralChar c = true := by
  cases h with
  | absent => simp
  | present hletter hsign _ hdigits =>
    refine List.forall_mem_cons.mpr ⟨?_, List.forall_mem_append.mpr
      ⟨hsign.chars, isNumeralChar_of_digits hdigits⟩⟩
    rcases hletter with rfl | rfl <;> decide

/-- A numeral is made of its characters. -/
theorem WrittenAs.chars {n : Numeral} {written : Text} (h : n.WrittenAs written) :
    ∀ c ∈ written, isNumeralChar c = true := by
  cases h with
  | parts hsign hmantissa hexponent =>
    exact List.forall_mem_append.mpr
      ⟨hsign.chars, List.forall_mem_append.mpr ⟨hmantissa.chars, hexponent.chars⟩⟩

/-- No blank stands in a numeral. -/
theorem isBlank_of_isNumeralChar {c : Char} (hc : isNumeralChar c = true) :
    Text.isBlank c = false := by
  simp only [isNumeralChar, goesOn, Bool.or_eq_true, decide_eq_true_eq] at hc
  rcases hc with ((((hdigit | rfl) | rfl) | rfl) | rfl) | rfl
  · exact Text.isBlank_of_isDigit hdigit
  all_goals decide

/-- A numeral is not changed by trimming it. -/
theorem WrittenAs.trim_eq {n : Numeral} {written : Text} (h : n.WrittenAs written) :
    Text.trim written = written :=
  Text.trim_eq_self fun c hc => isBlank_of_isNumeralChar (h.chars c hc)

/-- A text is read as a numeral exactly when the numeral is written there between blanks. -/
theorem ofText?_eq_some_iff {t : Text} {n : Numeral} :
    ofText? t = some n ↔ n.WrittenAs (Text.trim t) := by
  unfold ofText?
  constructor
  · intro h
    split at h
    · next hscan =>
      obtain ⟨written, hwritten, htext⟩ := exists_writtenAs hscan
      rw [List.append_nil] at htext
      rwa [htext, ← Option.some.inj h]
    · simp at h
  · intro h
    rw [h.scan?_eq]

/-- A numeral is read as what is written. -/
theorem WrittenAs.ofText?_eq {n : Numeral} {written : Text} (h : n.WrittenAs written) :
    ofText? written = some n :=
  ofText?_eq_some_iff.mpr (h.trim_eq.symm ▸ h)

/-- A text is a number exactly when it is a numeral between blanks. -/
theorem isNumeric_iff {t : Text} : isNumeric t = true ↔ ∃ n, WrittenAs n (Text.trim t) := by
  simp only [isNumeric, Option.isSome_iff_exists, ofText?_eq_some_iff]

end Numeral

end Rowscript
