import Mathlib.Algebra.Group.Nat.Defs
import Rowscript.Proofs.NumberTokens
import Rowscript.Table.Address

/-!
# Reading addresses back

Column letters count in base twenty-six without a zero, and adding them up from the left gives
the number that they were made of. Behind the letters of an address stand the decimal digits
of its row, and since no letter is a digit, both parts are found again.
-/

namespace Rowscript

namespace Text

/-- A letter of ASCII has the code point of one. -/
theorem toNat_of_isAlpha {c : Char} (h : c.isAlpha = true) :
    (0x41 ≤ c.toNat ∧ c.toNat ≤ 0x5A) ∨ (0x61 ≤ c.toNat ∧ c.toNat ≤ 0x7A) := by
  have hcode : (decide ('A'.val ≤ c.val ∧ c.val ≤ 'Z'.val) ||
      decide ('a'.val ≤ c.val) && decide (c.val ≤ 'z'.val)) = true := h
  simpa [UInt32.le_iff_toNat_le] using hcode

/-- A letter of ASCII is no blank. -/
theorem isBlank_of_isAlpha {c : Char} (h : c.isAlpha = true) : isBlank c = false := by
  have hletter := toNat_of_isAlpha h
  rw [← Bool.not_eq_true]
  intro hblank
  simp [isBlank, inRanges] at hblank
  omega

/-- No script has its digits among the letters of ASCII. -/
theorem isAlpha_of_isDigit {c : Char} (h : isDigit c = true) : c.isAlpha = false :=
  of_isDigit (P := fun c => c.isAlpha = false) (by decide +kernel) h

/-- A text of characters that stand for themselves is in upper case. -/
theorem upper_eq_self {t : Text} (h : ∀ c ∈ t, upperChar c = [c]) : upper t = t := by
  rw [upper, List.flatMap_def, List.map_congr_left h, ← List.flatMap_def]
  exact List.flatMap_singleton' t

end Text

namespace Number

/-- The text of a number is written in the ten digits of ASCII. -/
theorem toNat_of_mem_renderNat {n : Nat} {c : Char} (h : c ∈ renderNat n) :
    0x30 ≤ c.toNat ∧ c.toNat ≤ 0x39 := by
  have hdigit : c.isDigit = true := Nat.isDigit_of_mem_toDigits (by decide) (by decide) h
  simpa [Char.isDigit, UInt32.le_iff_toNat_le] using hdigit

/-- A digit of ASCII counts from the zero. -/
theorem digitValue?_of_mem_renderNat {n : Nat} {c : Char} (h : c ∈ renderNat n) :
    Text.digitValue? c = some (c.toNat - 0x30) := by
  obtain ⟨hlow, hhigh⟩ := toNat_of_mem_renderNat h
  have hascii : c.toNat < 0x80 := by omega
  simp [Text.digitValue?, hascii, hlow, hhigh]

/-- The text of a number is digits. -/
theorem isDigit_of_mem_renderNat {n : Nat} {c : Char} (h : c ∈ renderNat n) :
    Text.isDigit c = true := by
  rw [Text.isDigit, digitValue?_of_mem_renderNat h]
  rfl

/-- The digits of a number are read back as the number. -/
theorem digitsValue_renderNat (n : Nat) : Text.digitsValue (renderNat n) = n := by
  have hsteps : Text.digitsValue (renderNat n) = Nat.ofDigitChars 10 (renderNat n) 0 := by
    rw [Text.digitsValue, Nat.ofDigitChars_eq_foldl]
    refine List.foldl_ext _ _ 0 fun value c hc => ?_
    rw [digitValue?_of_mem_renderNat hc]
    rfl
  rw [hsteps]
  exact Nat.ofDigitChars_ten_toDigits

/-- A number has at most so many digits as the powers of ten say. -/
theorem length_renderNat_le {n digits : Nat} (hdigits : 0 < digits) (hn : n < 10 ^ digits) :
    (renderNat n).length ≤ digits :=
  (Nat.length_toDigits_le_iff (by decide) hdigits).mpr hn

end Number

namespace Column

/-- The letters of the columns in their order. -/
def letter (k : Nat) : Char := Char.ofNat ('A'.toNat + k)

/-- A letter is where it is counted to be. -/
theorem toNat_letter : ∀ k < 26, (letter k).toNat = 'A'.toNat + k := by decide

/-- A letter is in upper case. -/
theorem upperChar_letter : ∀ k < 26, Text.upperChar (letter k) = [letter k] := by decide

/-- A letter is one of ASCII. -/
theorem isAlpha_letter : ∀ k < 26, (letter k).isAlpha = true := by decide

/-- The letters of a number are letters of columns. -/
theorem mem_lettersBefore {number : Nat} {after : Text} {c : Char}
    (h : c ∈ lettersBefore number after) : c ∈ after ∨ ∃ k < 26, c = letter k := by
  fun_induction lettersBefore number after with
  | case1 after => exact .inl h
  | case2 after n ih =>
    rcases ih h with hc | hc
    · rcases List.mem_cons.mp hc with rfl | hc
      · exact .inr ⟨n % 26, by omega, rfl⟩
      · exact .inl hc
    · exact .inr hc

/-- The letters of a column are letters of columns. -/
theorem exists_letter_of_mem_ofIndex {index : Int} {c : Char} (h : c ∈ ofIndex index) :
    ∃ k < 26, c = letter k := by
  rcases mem_lettersBefore h with hc | hc
  · simp at hc
  · exact hc

/-- The letters of a column are letters of ASCII. -/
theorem isAlpha_of_mem_ofIndex {index : Int} {c : Char} (h : c ∈ ofIndex index) :
    c.isAlpha = true := by
  obtain ⟨k, hk, rfl⟩ := exists_letter_of_mem_ofIndex h
  exact isAlpha_letter k hk

/-- Letters before other letters are some. -/
theorem lettersBefore_ne_nil {number : Nat} {after : Text} (h : after ≠ []) :
    lettersBefore number after ≠ [] := by
  fun_induction lettersBefore number after with
  | case1 after => exact h
  | case2 after n ih => exact ih (by simp)

/-- Every column has letters. -/
theorem ofIndex_ne_nil (index : Nat) : ofIndex index ≠ [] := by
  have hnumber : ((index : Int) + 1).toNat = index + 1 := by omega
  rw [ofIndex, hnumber, lettersBefore]
  exact lettersBefore_ne_nil (by simp)

/-- The number that the letters so far stand for, with one more letter behind them. -/
def addLetter (number : Int) (c : Char) : Int :=
  number * 26 + ((c.toNat : Int) - ('A'.toNat : Int) + 1)

/-- Adding up the letters of a number gives the number, before the letters that follow. -/
theorem foldl_lettersBefore (number : Nat) (after : Text) :
    (lettersBefore number after).foldl addLetter 0 = after.foldl addLetter number := by
  fun_induction lettersBefore number after with
  | case1 after => rfl
  | case2 after n ih =>
    have hletter := toNat_letter (n % 26) (by omega)
    have hnumber : addLetter ((n / 26 : Nat) : Int) (letter (n % 26)) = ((n + 1 : Nat) : Int) := by
      rw [addLetter, hletter]
      omega
    rw [ih, List.foldl_cons]
    exact congrArg (after.foldl addLetter) hnumber

/-- The letters of a column are in upper case. -/
theorem upper_ofIndex (index : Int) : Text.upper (ofIndex index) = ofIndex index := by
  refine Text.upper_eq_self fun c hc => ?_
  obtain ⟨k, hk, rfl⟩ := exists_letter_of_mem_ofIndex hc
  exact upperChar_letter k hk

/-- The letters of a column are read back as its index. -/
theorem toIndex_ofIndex (index : Nat) : toIndex (ofIndex index) = index := by
  have hnumber : ((index : Int) + 1).toNat = index + 1 := by omega
  have hsum : (ofIndex index).foldl addLetter 0 = ((index + 1 : Nat) : Int) := by
    rw [ofIndex, hnumber, foldl_lettersBefore]
    rfl
  rw [toIndex, upper_ofIndex]
  change (ofIndex index).foldl addLetter 0 - 1 = index
  rw [hsum]
  omega

end Column

/-- A dollar sign before a text that does not begin with one is dropped. -/
theorem dropDollar_append {dollar : Text} (hdollar : dollar = [] ∨ dollar = ['$']) {c : Char}
    (hc : c ≠ '$') (t : Text) : dropDollar (dollar ++ c :: t) = c :: t := by
  rcases hdollar with rfl | rfl
  · rw [List.nil_append]
    unfold dropDollar
    split
    · next h => exact absurd (List.cons.inj h).1 hc
    · rfl
  · rfl

/-- Letters of ASCII with digits behind them are the parts of an address, whether a dollar sign
stands before them or not. -/
theorem splitAddress?_append {first letters second digits : Text}
    (hfirst : first = [] ∨ first = ['$']) (hletters : letters ≠ [])
    (hletter : ∀ c ∈ letters, c.isAlpha = true) (hsecond : second = [] ∨ second = ['$'])
    (hdigits : digits ≠ []) (hdigit : ∀ c ∈ digits, Text.isDigit c = true) :
    splitAddress? (first ++ (letters ++ (second ++ digits))) = some (letters, digits) := by
  have hdollar : ∀ dollar : Text, dollar = [] ∨ dollar = ['$'] →
      ∀ c ∈ dollar, Text.isBlank c = false := by
    rintro dollar (rfl | rfl) <;> decide
  have htrim : Text.trim (first ++ (letters ++ (second ++ digits))) =
      first ++ (letters ++ (second ++ digits)) := by
    apply Text.trim_eq_self
    simp only [List.forall_mem_append]
    exact ⟨hdollar first hfirst, fun c hc => Text.isBlank_of_isAlpha (hletter c hc),
      hdollar second hsecond, fun c hc => Text.isBlank_of_isDigit (hdigit c hc)⟩
  have hspan : (letters ++ (second ++ digits)).span Char.isAlpha = (letters, second ++ digits) := by
    have hstop : ∀ c ∈ (second ++ digits).head?, c.isAlpha = false := by
      rcases hsecond with rfl | rfl
      · exact fun c hc => Text.isAlpha_of_isDigit (hdigit c (List.mem_of_mem_head? hc))
      · rintro c hc
        exact Option.some.inj hc ▸ by decide
    rw [List.span_eq_takeWhile_dropWhile, List.takeWhile_append_of_pos hletter,
      List.dropWhile_append_of_pos hletter]
    generalize second ++ digits = rest at hstop
    cases rest with
    | nil => simp
    | cons c rest => simp [hstop c rfl]
  obtain ⟨letter, letters, rfl⟩ := List.exists_cons_of_ne_nil hletters
  obtain ⟨digit, digits, rfl⟩ := List.exists_cons_of_ne_nil hdigits
  have hletterDollar : letter ≠ '$' := by
    rintro rfl
    exact absurd (hletter '$' List.mem_cons_self) (by decide)
  have hdigitDollar : digit ≠ '$' := by
    rintro rfl
    exact absurd (hdigit '$' List.mem_cons_self) (by decide)
  have hall : (digit :: digits).all Text.isDigit = true := List.all_eq_true.mpr hdigit
  rw [splitAddress?, htrim, List.cons_append, dropDollar_append hfirst hletterDollar,
    ← List.cons_append, hspan]
  simp only [dropDollar_append hsecond hdigitDollar, hall]
  rfl

/-- The letters and digits of an address are found again. -/
theorem splitAddress?_cellAddress (column row : Nat) :
    splitAddress? (cellAddress column row) =
      some (Column.ofIndex column, Number.renderNat row) := by
  have hsplit : splitAddress? ([] ++ (Column.ofIndex column ++ ([] ++ Number.renderNat row))) =
      some (Column.ofIndex column, Number.renderNat row) :=
    splitAddress?_append (.inl rfl) (Column.ofIndex_ne_nil column)
      (fun _ hc => Column.isAlpha_of_mem_ofIndex hc) (.inl rfl) Nat.toDigits_ne_nil
      fun _ hc => Number.isDigit_of_mem_renderNat hc
  rwa [List.nil_append, List.nil_append, ← cellAddress] at hsplit

/-- The address of a cell is read back, unless the number of its row has too many digits. -/
theorem readAddress_cellAddress {column row : Nat} (hrow : row < 10 ^ Number.digitLimit) :
    readAddress (cellAddress column row) = .ok (Column.ofIndex column, row) := by
  have hlength := Number.length_renderNat_le (by decide) hrow
  rw [readAddress, splitAddress?_cellAddress]
  simp only [if_neg (Nat.not_lt.mpr hlength), Column.upper_ofIndex, Number.digitsValue_renderNat]

/-- After `Z` comes `AA`. -/
example : cellAddress 26 7 = "AA7".toList ∧ readAddress "AA7".toList = .ok ("AA".toList, 7) := by
  decide +kernel

end Rowscript
