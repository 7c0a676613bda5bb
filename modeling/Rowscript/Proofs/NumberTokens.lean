import Rowscript.Proofs.Lexemes
import Rowscript.Proofs.NumeralGrammar

/-!
# Numbers in rules

A token of a number is digits of any scripts, perhaps with a point or a comma among them.
With its comma turned into a point it is a numeral as a whole, so reading it as a number
never fails.
-/

namespace Rowscript

namespace Numeral

/-- Digits hold no comma and no point. -/
theorem not_mem_of_digits {digits : Text} (hdigits : ∀ c ∈ digits, Text.isDigit c = true) :
    ',' ∉ digits ∧ '.' ∉ digits :=
  ⟨Text.not_mem_of_forall (by decide) hdigits, Text.not_mem_of_forall (by decide) hdigits⟩

/-- A text with several commas or none, or with a point, has no decimal comma. -/
theorem normalizeDecimal_eq_self {t : Text} (h : t.count ',' ≠ 1 ∨ '.' ∈ t) :
    normalizeDecimal t = t := by
  rw [normalizeDecimal, if_neg]
  rcases h with hcount | hpoint
  · simp [hcount]
  · simp [hpoint]

/-- A text without a comma has none that could become a point. -/
theorem map_comma_eq_self {t : Text} (h : ',' ∉ t) :
    t.map (fun c => if c = ',' then '.' else c) = t := by
  rw [List.map_congr_left fun c hc => if_neg ?_, List.map_id']
  rintro rfl
  exact h hc

/-- The only comma of a text without a point becomes a point. -/
theorem normalizeDecimal_comma {before after : Text} (hbefore : ',' ∉ before ∧ '.' ∉ before)
    (hafter : ',' ∉ after ∧ '.' ∉ after) :
    normalizeDecimal (before ++ ',' :: after) = before ++ '.' :: after := by
  have hcount : (before ++ ',' :: after).count ',' = 1 := by
    simp [List.count_eq_zero.mpr hbefore.1, List.count_eq_zero.mpr hafter.1]
  rw [normalizeDecimal, if_pos (by simp [hcount, hbefore.2, hafter.2]), List.map_append,
    List.map_cons, map_comma_eq_self hbefore.1, map_comma_eq_self hafter.1]
  rfl

/-- Digits are not changed when a decimal comma is turned into a point. -/
theorem normalizeDecimal_digits {digits : Text} (hdigits : ∀ c ∈ digits, Text.isDigit c = true) :
    normalizeDecimal digits = digits := by
  refine normalizeDecimal_eq_self (.inl ?_)
  rw [List.count_eq_zero.mpr (not_mem_of_digits hdigits).1]
  decide

/-- Digits around a point or a comma become digits around a point. -/
theorem normalizeDecimal_fraction {whole fraction : Text} {mark : Char}
    (hmark : mark = '.' ∨ mark = ',') (hwhole : ∀ c ∈ whole, Text.isDigit c = true)
    (hfraction : ∀ c ∈ fraction, Text.isDigit c = true) :
    normalizeDecimal (whole ++ mark :: fraction) = whole ++ '.' :: fraction := by
  rcases hmark with rfl | rfl
  · exact normalizeDecimal_eq_self (.inr (by simp))
  · exact normalizeDecimal_comma (not_mem_of_digits hwhole) (not_mem_of_digits hfraction)

/-- Digits are the numeral of their value. -/
theorem ofText?_digits {digits : Text} (hne : digits ≠ [])
    (hdigits : ∀ c ∈ digits, Text.isDigit c = true) :
    ofText? digits = some ⟨false, digits, [], none⟩ :=
  (MantissaWritten.whole hne hdigits).writtenAs.ofText?_eq

/-- Digits around a point are a numeral with a fraction. -/
theorem ofText?_fraction {whole fraction : Text} (hne : whole ≠ [])
    (hwhole : ∀ c ∈ whole, Text.isDigit c = true)
    (hfraction : ∀ c ∈ fraction, Text.isDigit c = true) :
    ofText? (whole ++ '.' :: fraction) = some ⟨false, whole, fraction, none⟩ :=
  (MantissaWritten.point hne hwhole hfraction).writtenAs.ofText?_eq

/-- The text of a number's token is a numeral as a whole. -/
theorem ofText?_of_shape {token : Token} (h : token.Shape) (hkind : token.kind = .number) :
    ∃ numeral, ofText? (normalizeDecimal token.value) = some numeral := by
  cases h with
  | @whole digits hne hdigits =>
    have hvalue : (Token.plain .number digits).value = digits := rfl
    rw [hvalue, normalizeDecimal_digits hdigits, ofText?_digits hne hdigits]
    exact ⟨_, rfl⟩
  | @fraction whole fraction mark hne hwhole hmark hfraction _ =>
    have hvalue : (Token.plain .number (whole ++ mark :: fraction)).value =
        whole ++ mark :: fraction := rfl
    rw [hvalue, normalizeDecimal_fraction hmark hwhole hfraction,
      ofText?_fraction hne hwhole hfraction]
    exact ⟨_, rfl⟩
  | reference r _ => rcases Token.kind_ofReference r with h | h <;> simp [h] at hkind
  | _ => nomatch hkind

end Numeral

end Rowscript
