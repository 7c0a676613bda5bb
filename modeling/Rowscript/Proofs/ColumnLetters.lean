import Rowscript.Proofs.CellLocks

/-!
# Letters and indexes of columns

Column letters count in base twenty-six without a zero. So every text of letters belongs to one
column: taking a letter off the end of a column's letters is undone by counting on from the letters
before it. The address of a cell leads back to the letters of its column and to its row, however it
is spelled, as long as a number with so many digits is read at all.
-/

namespace Rowscript

namespace Column

/-- A letter of a column is one of the capital letters. -/
theorem letter_mem_range : ∀ k < 26, 'A' ≤ letter k ∧ letter k ≤ 'Z' := by decide

/-- The upper case of a letter of ASCII is a letter of a column. -/
theorem exists_letter_eq_toUpper {c : Char} (h : c.isAlpha = true) :
    ∃ k < 26, c.toUpper = letter k := by
  have hletter := Text.toNat_of_isAlpha h
  have hall : ∀ code < 0x80, (Char.ofNat code).isAlpha = true →
      ∃ k < 26, (Char.ofNat code).toUpper = letter k := by
    decide +kernel
  have hone := hall c.toNat (by omega)
  rw [Char.ofNat_toNat] at hone
  exact hone h

/-- The last letter of a number is taken off where one more letter is counted. -/
theorem lettersBefore_addLetter {k : Nat} (hk : k < 26) (number : Nat) (after : Text) :
    lettersBefore (addLetter number (letter k)).toNat after =
      lettersBefore number (letter k :: after) := by
  have hnumber : (addLetter number (letter k)).toNat = number * 26 + k + 1 := by
    rw [addLetter, toNat_letter k hk]
    omega
  have hdiv : (number * 26 + k) / 26 = number := by omega
  have hmod : (number * 26 + k) % 26 = k := by omega
  rw [hnumber, lettersBefore, hdiv, hmod]
  rfl

/-- Letters that are counted on from a number are written behind the letters of the number. -/
theorem lettersBefore_foldl {letters : Text} (h : ∀ c ∈ letters, ∃ k < 26, c = letter k)
    (number : Nat) (after : Text) :
    lettersBefore (letters.foldl addLetter number).toNat after =
      lettersBefore number (letters ++ after) := by
  induction letters generalizing number with
  | nil => rfl
  | cons c letters ih =>
    obtain ⟨⟨k, hk, rfl⟩, hrest⟩ := List.forall_mem_cons.mp h
    have hnext : addLetter number (letter k) = ((addLetter number (letter k)).toNat : Int) := by
      rw [addLetter, toNat_letter k hk]
      omega
    rw [List.foldl_cons, hnext, ih hrest, lettersBefore_addLetter hk, List.cons_append]

/-- Letters are the letters of the column that they count, in upper case. -/
theorem ofIndex_toIndex {letters : Text} (h : ∀ c ∈ letters, c.isAlpha = true) :
    ofIndex (toIndex letters) = letters.map Char.toUpper := by
  have hupper : ∀ c ∈ letters.map Char.toUpper, ∃ k < 26, c = letter k := by
    rw [List.forall_mem_map]
    exact fun c hc => exists_letter_eq_toUpper (h c hc)
  have hsum : toIndex letters + 1 = (letters.map Char.toUpper).foldl addLetter (0 : Nat) := by
    rw [toIndex, Text.upper_of_isAlpha h]
    exact Int.sub_add_cancel _ 1
  rw [ofIndex, hsum, lettersBefore_foldl hupper, lettersBefore, List.append_nil]

end Column

/-- An address is split into its letters and its digits, whatever its spelling is. -/
theorem Spelling.Writes.splitAddress?_eq {spelling : Spelling} {letters cell : Text}
    (h : spelling.Writes letters cell) :
    splitAddress? cell = some (letters, spelling.digits) := by
  obtain ⟨first, second, hfirst, hsecond, hcell⟩ := h.cell_eq
  have hparts := splitAddress?_append hfirst h.letters_ne_nil h.letters_alpha hsecond
    h.digits_ne_nil h.digits_digit
  have htrim : Text.trim cell = Text.trim (first ++ (letters ++ (second ++ spelling.digits))) := by
    rw [hcell, Text.trim_append_blanks h.after_blank, Text.trim_blanks_append h.before_blank]
    simp only [List.append_assoc]
  rw [splitAddress?, ← htrim, ← splitAddress?] at hparts
  exact hparts

/-- An address is read as its letters in upper case and the number of its digits, unless there are
too many digits. -/
theorem Spelling.Writes.readAddress_eq {spelling : Spelling} {letters cell : Text}
    (h : spelling.Writes letters cell) :
    readAddress cell = if Number.digitLimit < spelling.digits.length then
        .error (.rowTooLong spelling.digits.length)
      else .ok (letters.map Char.toUpper, Text.digitsValue spelling.digits) := by
  rw [readAddress, h.splitAddress?_eq, ← Text.upper_of_isAlpha h.letters_alpha]

namespace Column

/-- Indexes of columns and texts of letters belong to each other one by one. The letters of an index
are some capital letters that count the index, and letters in either case are those of the index
that they count, in upper case. Behind the letters of an index in either case, the digits of a row
are read as the row, with a dollar sign before either or none and with blanks around both, unless
there are too many of them. -/
theorem letters_bijective :
    (∀ index : Nat, ofIndex index ≠ [] ∧ (∀ c ∈ ofIndex index, 'A' ≤ c ∧ c ≤ 'Z') ∧
      toIndex (ofIndex index) = index) ∧
    (∀ letters : Text, letters ≠ [] → (∀ c ∈ letters, c.isAlpha = true) →
      ∃ index : Nat, toIndex letters = index ∧ ofIndex index = letters.map Char.toUpper) ∧
    ∀ (index row : Nat) (spelling : Spelling) (letters cell : Text),
      spelling.Writes letters cell → letters.map Char.toUpper = ofIndex index →
      spelling.digits = Number.renderNat row →
        readAddress cell = if row < 10 ^ Number.digitLimit then .ok (ofIndex index, row)
          else .error (.rowTooLong (Number.renderNat row).length) := by
  refine ⟨fun index => ⟨ofIndex_ne_nil index, fun c hc => ?_, toIndex_ofIndex index⟩,
    fun letters hne hletters => ?_, fun index row spelling letters cell h hupper hdigits => ?_⟩
  · obtain ⟨k, hk, rfl⟩ := exists_letter_of_mem_ofIndex hc
    exact letter_mem_range k hk
  · have hletter := ofIndex_toIndex hletters
    obtain ⟨index, hindex⟩ : ∃ index : Nat, toIndex letters = index := by
      refine Int.eq_ofNat_of_zero_le ?_
      by_contra hneg
      -- A negative index has no letters.
      have hzero : (toIndex letters + 1).toNat = 0 := by omega
      rw [ofIndex, hzero, lettersBefore] at hletter
      exact hne (by simpa using hletter.symm)
    exact ⟨index, hindex, hindex ▸ hletter⟩
  · have hlength : row < 10 ^ Number.digitLimit ↔
        ¬ Number.digitLimit < (Number.renderNat row).length := by
      rw [Nat.not_lt]
      exact (Nat.length_toDigits_le_iff (by decide) (by decide)).symm
    rw [h.readAddress_eq, hupper, hdigits, Number.digitsValue_renderNat]
    simp only [hlength, ite_not]

/-- The letters `aB` are those of the column with index 27, and ` $aB$7 ` is read as its row 7. -/
theorem letters_bijective_at_aB :
    (∃ index : Nat, toIndex "aB".toList = index ∧ ofIndex index = "AB".toList) ∧
    readAddress " $aB$7 ".toList = .ok ("AB".toList, 7) := by
  obtain ⟨-, hletters, haddress⟩ := letters_bijective
  refine ⟨hletters "aB".toList (by decide) (by decide), ?_⟩
  have hwrites : Spelling.Writes ⟨" ".toList, "7".toList, " ".toList⟩ "aB".toList
      " $aB$7 ".toList :=
    { cell_eq := ⟨['$'], ['$'], .inr rfl, .inr rfl, by decide⟩
      before_blank := by decide
      letters_ne_nil := by decide
      letters_alpha := by decide
      digits_ne_nil := by decide
      digits_digit := by decide
      after_blank := by decide }
  have hread := haddress 27 7 _ _ _ hwrites (by decide +kernel) (by decide +kernel)
  have hrow : 7 < 10 ^ Number.digitLimit := Nat.lt_of_lt_of_le (by decide : 7 < 10 ^ 1)
    (Nat.pow_le_pow_right (by decide) (by decide))
  have hindex : ofIndex (27 : Nat) = "AB".toList := by decide +kernel
  rwa [if_pos hrow, hindex] at hread

/-- The first row with a number of more digits than are read has no address that is read back. -/
theorem readAddress_first_long_row :
    readAddress (ofIndex (0 : Nat) ++ Number.renderNat (10 ^ Number.digitLimit)) =
      .error (.rowTooLong (Number.digitLimit + 1)) := by
  have hlength : (Number.renderNat (10 ^ Number.digitLimit)).length = Number.digitLimit + 1 := by
    refine le_antisymm ?_ (Nat.lt_of_not_le fun hle => ?_)
    · exact (Nat.length_toDigits_le_iff (by decide) (by decide)).mpr
        (Nat.pow_lt_pow_right (by decide) (Nat.lt_succ_self _))
    · exact lt_irrefl _ ((Nat.length_toDigits_le_iff (by decide) (by decide)).mp hle)
  rw [← cellAddress, readAddress, splitAddress?_cellAddress]
  simp only [hlength, if_pos (Nat.lt_succ_self _)]

end Column

end Rowscript
