import Rowscript.Proofs.NumeralGrammar

/-!
# The longest numeral at the beginning of a text

The scanner decides at every character whether the numeral goes on, and never goes back. So it has
to be shown that it misses nothing: wherever a numeral is written at the beginning of a text, the
scanner reaches at least its end. Since it takes nothing but numerals, what it takes is the longest
beginning of the text that is a number, and a text is a number exactly when the scanner takes all
of it.
-/

namespace Rowscript.Numeral

section Reach

variable {rest : Text}

/-- Digits before a text are taken together with the digits at its beginning. -/
theorem scanDigits_append_eq {digits : Text} (hdigits : ∀ c ∈ digits, Text.isDigit c = true)
    (rest : Text) :
    scanDigits (digits ++ rest) = (digits ++ (scanDigits rest).1, (scanDigits rest).2) := by
  simp only [scanDigits, List.span_eq_takeWhile_dropWhile, List.takeWhile_append_of_pos hdigits,
    List.dropWhile_append_of_pos hdigits]

/-- Behind the digits at its beginning there is no more than the text. -/
theorem length_scanDigits_le (t : Text) : (scanDigits t).2.length ≤ t.length := by
  have hlength := congrArg List.length (scanDigits_sound t).2
  rw [List.length_append] at hlength
  omega

/-- Behind an exponent there is no more than the text. -/
theorem length_le_of_scanExponent? {t : Text} {exponent : Bool × Text}
    (h : scanExponent? t = some (exponent, rest)) : rest.length ≤ t.length := by
  obtain ⟨mark, -, rfl⟩ := exists_exponentWritten h
  simp

/-- Digits around a point that are written before a text are taken, and perhaps more. -/
theorem MantissaWritten.exists_scanMantissa? {whole fraction mantissa : Text}
    (h : MantissaWritten whole fraction mantissa) (rest : Text) :
    ∃ whole' fraction' rest', scanMantissa? (mantissa ++ rest) = some (whole', fraction', rest') ∧
      rest'.length ≤ rest.length := by
  cases h with
  | whole hne hwhole =>
    obtain ⟨d, digits, rfl⟩ := List.exists_cons_of_ne_nil hne
    have hrest := length_scanDigits_le rest
    rw [scanMantissa?, scanDigits_append_eq hwhole]
    -- More digits may follow, and behind them a point with digits of its own.
    rcases hafter : (scanDigits rest).2 with _ | ⟨c, after⟩
    · exact ⟨_, _, [], rfl, Nat.zero_le _⟩
    · rw [hafter] at hrest
      by_cases hc : c = '.'
      · subst hc
        have hfraction := length_scanDigits_le after
        rw [List.length_cons] at hrest
        exact ⟨_, (scanDigits after).1, (scanDigits after).2, rfl, by omega⟩
      · exact ⟨d :: digits ++ (scanDigits rest).1, [], c :: after, by simp [hc], hrest⟩
  | point hne hwhole hfraction =>
    obtain ⟨d, digits, rfl⟩ := List.exists_cons_of_ne_nil hne
    have hpoint : ∀ c ∈ ('.' :: (fraction ++ rest)).head?, Text.isDigit c = false := by
      intro c hc
      obtain rfl := Option.some.inj hc
      decide
    have hrest := length_scanDigits_le rest
    rw [List.append_assoc, List.cons_append (a := '.'), scanMantissa?,
      scanDigits_append hwhole hpoint]
    refine ⟨d :: digits, (scanDigits (fraction ++ rest)).1, (scanDigits (fraction ++ rest)).2,
      rfl, ?_⟩
    rw [scanDigits_append_eq hfraction]
    exact hrest
  | leadingPoint hne hfraction =>
    have hpoint : scanDigits ('.' :: (fraction ++ rest)) = ([], '.' :: (fraction ++ rest)) := rfl
    have hrest := length_scanDigits_le rest
    rw [List.cons_append, scanMantissa?, hpoint]
    refine ⟨[], fraction ++ (scanDigits rest).1, (scanDigits rest).2, ?_, hrest⟩
    simp [scanDigits_append_eq hfraction, hne]

/-- An exponent that is written before a text is taken, and perhaps more digits. -/
theorem ExponentWritten.exists_scanExponent? {exponent : Bool × Text} {mark : Text}
    (h : ExponentWritten (some exponent) mark) (rest : Text) :
    ∃ exponent' rest', scanExponent? (mark ++ rest) = some (exponent', rest') ∧
      rest'.length ≤ rest.length := by
  cases h with
  | @present c negative sign digits hmark hsign hne hdigits =>
    have hscan : scanSign (sign ++ (digits ++ rest)) = (negative, digits ++ rest) :=
      (MantissaWritten.whole hne hdigits).scanSign_append hsign rest
    refine ⟨(negative, digits ++ (scanDigits rest).1), (scanDigits rest).2, ?_,
      length_scanDigits_le rest⟩
    rw [List.cons_append, List.append_assoc, scanExponent?, if_pos (by simpa using hmark), hscan]
    dsimp only
    rw [scanDigits_append_eq hdigits, if_neg (by simp [hne])]

/-- A numeral that is written before a text is taken, and perhaps more. -/
theorem WrittenAs.exists_scan? {n : Numeral} {written : Text} (h : n.WrittenAs written)
    (rest : Text) :
    ∃ n' rest', scan? (written ++ rest) = some (n', rest') ∧ rest'.length ≤ rest.length := by
  cases h with
  | @parts negative whole fraction exponent sign mantissa mark hsign hmantissa hexponent =>
    rw [List.append_assoc, List.append_assoc, scan?, hmantissa.scanSign_append hsign]
    dsimp only
    cases exponent with
    | none =>
      -- The text may go on with digits, with a point and with an exponent.
      cases hexponent
      obtain ⟨whole', fraction', after, hread, hafter⟩ := hmantissa.exists_scanMantissa? rest
      rw [List.nil_append, hread]
      cases hmore : scanExponent? after with
      | none => exact ⟨⟨negative, whole', fraction', none⟩, after, by simp [hmore], hafter⟩
      | some read =>
        obtain ⟨exponent', rest'⟩ := read
        have hrest' := length_le_of_scanExponent? hmore
        exact ⟨⟨negative, whole', fraction', some exponent'⟩, rest', by simp [hmore],
          hrest'.trans hafter⟩
    | some exponent =>
      -- The letter of the exponent ends the digits before it.
      obtain ⟨exponent', rest', hread, hrest'⟩ := hexponent.exists_scanExponent? rest
      rw [hmantissa.scanMantissa?_append hexponent.stop]
      exact ⟨⟨negative, whole, fraction, some exponent'⟩, rest', by simp [hread], hrest'⟩

end Reach

/-- A beginning of a text that is a number, without blanks around it. -/
structure NumberAtStart (p t : Text) : Prop where
  beginning : p <+: t
  trim_eq : Text.trim p = p
  isNumeric : isNumeric p = true

/-- The longest beginning of a text that is a number. -/
structure LongestNumber (p t : Text) : Prop extends NumberAtStart p t where
  longest : ∀ q, NumberAtStart q t → q.length ≤ p.length

section Longest

variable {p t rest : Text} {n : Numeral}

/-- A beginning of a text is a number without blanks exactly when it is written as a numeral. -/
theorem numberAtStart_iff : NumberAtStart p t ↔ p <+: t ∧ ∃ n : Numeral, n.WrittenAs p := by
  constructor
  · rintro ⟨hbeginning, htrim, hnumeric⟩
    obtain ⟨n, hn⟩ := isNumeric_iff.mp hnumeric
    rw [htrim] at hn
    exact ⟨hbeginning, n, hn⟩
  · rintro ⟨hbeginning, n, hn⟩
    refine ⟨hbeginning, hn.trim_eq, isNumeric_iff.mpr ⟨n, ?_⟩⟩
    rw [hn.trim_eq]
    exact hn

/-- What is taken from a text is its longest beginning that is a number. -/
theorem exists_longestNumber (h : scan? t = some (n, rest)) :
    ∃ p, LongestNumber p t ∧ n.WrittenAs p ∧ t = p ++ rest := by
  obtain ⟨p, hp, rfl⟩ := exists_writtenAs h
  have hstart : NumberAtStart p (p ++ rest) :=
    numberAtStart_iff.mpr ⟨List.prefix_append p rest, n, hp⟩
  refine ⟨p, ⟨hstart, fun q hq => ?_⟩, hp, rfl⟩
  obtain ⟨⟨behind, hbehind⟩, m, hm⟩ := numberAtStart_iff.mp hq
  obtain ⟨n', rest', hread, hrest'⟩ := hm.exists_scan? behind
  rw [hbehind, h] at hread
  obtain ⟨rfl, rfl⟩ := Prod.mk.inj (Option.some.inj hread)
  have hlength := congrArg List.length hbehind
  rw [List.length_append, List.length_append] at hlength
  omega

/-- Nothing is taken from a text exactly when no beginning of it is a number. -/
theorem scan?_eq_none_iff_forall : scan? t = none ↔ ∀ p, ¬ NumberAtStart p t := by
  constructor
  · intro h p hp
    obtain ⟨⟨behind, hbehind⟩, m, hm⟩ := numberAtStart_iff.mp hp
    obtain ⟨n, rest, hread, -⟩ := hm.exists_scan? behind
    rw [hbehind, h] at hread
    simp at hread
  · intro h
    cases hread : scan? t with
    | none => rfl
    | some read =>
      obtain ⟨n, rest⟩ := read
      obtain ⟨p, hp, -, -⟩ := exists_longestNumber hread
      exact absurd hp.toNumberAtStart (h p)

/-- A text has no two longest beginnings that are numbers. -/
theorem LongestNumber.unique {q : Text} (hp : LongestNumber p t) (hq : LongestNumber q t) :
    p = q := by
  have hlength : p.length = q.length :=
    Nat.le_antisymm (hq.longest p hp.toNumberAtStart) (hp.longest q hq.toNumberAtStart)
  exact (List.prefix_of_prefix_length_le hp.beginning hq.beginning hlength.le).eq_of_length hlength

/-- A text is written as no more than one numeral. -/
theorem WrittenAs.unique {m : Numeral} (hn : n.WrittenAs p) (hm : m.WrittenAs p) : n = m := by
  have hread := hn.scan?_eq
  rw [hm.scan?_eq] at hread
  exact (Prod.mk.inj (Option.some.inj hread)).1.symm

/-- The scanner and the numbers agree. What the scanner takes from a text is the longest beginning
of the text that is a number without blanks around it, read as the numeral that is written there;
it takes nothing exactly when there is no such beginning. And a text is a number exactly when the
scanner takes all of the trimmed text, which is when that is written as a numeral. -/
theorem scan?_takes_longest (t : Text) :
    (∀ n rest, scan? t = some (n, rest) ↔
      ∃ p, LongestNumber p t ∧ n.WrittenAs p ∧ t = p ++ rest) ∧
    (scan? t = none ↔ ∀ p, ¬ NumberAtStart p t) ∧
    (isNumeric t = true ↔ ∃ n, scan? (Text.trim t) = some (n, [])) ∧
    (isNumeric t = true ↔ ∃ n : Numeral, n.WrittenAs (Text.trim t)) := by
  refine ⟨fun n rest => ⟨exists_longestNumber, ?_⟩, scan?_eq_none_iff_forall, ?_, isNumeric_iff⟩
  · rintro ⟨p, hp, hn, rfl⟩
    cases hread : scan? (p ++ rest) with
    | none => exact absurd hp.toNumberAtStart (scan?_eq_none_iff_forall.mp hread p)
    | some read =>
      obtain ⟨m, rest'⟩ := read
      obtain ⟨q, hq, hm, hsplit⟩ := exists_longestNumber hread
      obtain rfl := hp.unique hq
      rw [hn.unique hm, List.append_cancel_left hsplit]
  · rw [isNumeric_iff]
    constructor
    · rintro ⟨n, hn⟩
      exact ⟨n, hn.scan?_eq⟩
    · rintro ⟨n, hread⟩
      obtain ⟨p, -, hn, hsplit⟩ := exists_longestNumber hread
      rw [List.append_nil] at hsplit
      exact ⟨n, hsplit ▸ hn⟩

end Longest

end Rowscript.Numeral
