import Rowscript.Book.Scratch
import Rowscript.Proofs.Addresses

/-!
# Locks of scratch cells

The lock of a scratch cell is known by the text of its address, but an address is read more
generously: blanks around it, zeros before its row and digits of another script lead to the same
cell. This file takes an address apart into its letters and its spelling, and proves that two
scratch cells have the same lock exactly when they are the same cell and are spelled alike.
-/

namespace Rowscript

namespace Text

/-- Between two code points there is no character with another upper case. -/
def keepsUpper (range : Nat × Nat) : Bool :=
  (range.2 < 0x61 || 0x7A < range.1) &&
    (upperSequences.all fun entry => entry.1 < range.1 || range.2 < entry.1) &&
      upperRuns.all fun run => run.last < range.1 || range.2 < run.first

/-- Characters in such a range stand for themselves in upper case. -/
theorem upperChar_of_keepsUpper {range : Nat × Nat} {c : Char} (h : keepsUpper range = true)
    (hc : range.1 ≤ c.toNat ∧ c.toNat ≤ range.2) : upperChar c = [c] := by
  simp only [keepsUpper, Bool.and_eq_true, Bool.or_eq_true, decide_eq_true_eq,
    List.all_eq_true] at h
  obtain ⟨⟨hletters, hsequences⟩, hruns⟩ := h
  have hascii : c.toUpper = c := by
    refine dif_neg ?_
    simp only [UInt32.le_iff_toNat_le]
    change ¬(0x61 ≤ c.toNat ∧ c.toNat ≤ 0x7A)
    omega
  have hsequence : upperSequences.lookup c.toNat = none := by
    refine List.lookup_eq_none_iff.mpr fun entry hentry => ?_
    have hrange := hsequences entry hentry
    rw [bne_iff_ne]
    omega
  have hrun : (upperRuns.find? fun run => run.first ≤ c.toNat && c.toNat ≤ run.last &&
      (c.toNat - run.first) % run.step = 0) = none := by
    refine List.find?_eq_none.mpr fun run hrun => ?_
    have hrange := hruns run hrun
    simp only [Bool.and_eq_true, decide_eq_true_eq]
    omega
  rw [upperChar, hascii, hsequence, hrun, ite_self]

/-- A blank stands for itself in upper case. -/
theorem upperChar_of_isBlank {c : Char} (h : isBlank c = true) : upperChar c = [c] := by
  obtain ⟨range, hrange, hc⟩ := List.any_eq_true.mp h
  have hkeeps : keepsUpper range = true := by
    clear hc
    revert range
    decide +kernel
  exact upperChar_of_keepsUpper hkeeps (by simpa using hc)

/-- A decimal digit stands for itself in upper case. -/
theorem upperChar_of_isDigit {c : Char} (h : isDigit c = true) : upperChar c = [c] := by
  obtain ⟨first, hfirst, k, hk, hc⟩ := exists_first_of_isDigit h
  have hkeeps : ∀ first ∈ 0x30 :: digitZeros, keepsUpper (first, first + 9) = true := by
    decide +kernel
  exact upperChar_of_keepsUpper (hkeeps first hfirst) (by dsimp only; omega)

/-- A letter of ASCII has one letter of ASCII as its upper case. -/
theorem upperChar_of_isAlpha {c : Char} (h : c.isAlpha = true) :
    upperChar c = [c.toUpper] ∧ c.toUpper.isAlpha = true := by
  have hletter := toNat_of_isAlpha h
  have hascii : c.toNat < 0x80 := by omega
  have hupper : ∀ code < 0x80, (Char.ofNat code).isAlpha = true →
      (Char.ofNat code).toUpper.isAlpha = true := by
    decide +kernel
  have hstays := hupper c.toNat hascii
  rw [Char.ofNat_toNat] at hstays
  exact ⟨by rw [upperChar, if_pos hascii], hstays h⟩

/-- The upper case of a text is that of its parts. -/
theorem upper_append (s t : Text) : upper (s ++ t) = upper s ++ upper t := List.flatMap_append

/-- The upper case of letters is letters, one for each. -/
theorem upper_of_isAlpha {letters : Text} (h : ∀ c ∈ letters, c.isAlpha = true) :
    upper letters = letters.map Char.toUpper := by
  rw [upper, List.flatMap_def, List.map_congr_left fun c hc => (upperChar_of_isAlpha (h c hc)).1,
    ← List.flatMap_def]
  exact List.map_eq_flatMap.symm

/-- Blanks are taken off up to a text without blanks. -/
theorem takeWhile_isBlank_append {blanks body : Text} (h : ∀ c ∈ blanks, isBlank c = true)
    (hbody : ∀ c ∈ body, isBlank c = false) (hne : body ≠ []) (rest : Text) :
    (blanks ++ (body ++ rest)).takeWhile isBlank = blanks := by
  obtain ⟨c, body, rfl⟩ := List.exists_cons_of_ne_nil hne
  rw [List.takeWhile_append_of_pos h]
  simp [hbody c List.mem_cons_self]

end Text

/-- A text is another one behind at most one dollar sign. -/
theorem exists_dollar_append (t : Text) :
    ∃ dollar : Text, (dollar = [] ∨ dollar = ['$']) ∧ t = dollar ++ dropDollar t := by
  unfold dropDollar
  split
  · next rest => exact ⟨['$'], .inr rfl, rfl⟩
  · exact ⟨[], .inl rfl, rfl⟩

/-- How the address of a cell is spelled, its letters and its dollar signs apart. -/
structure Spelling where
  /-- The blanks before the address. -/
  before : Text
  /-- The digits of its row. -/
  digits : Text
  /-- The blanks behind it. -/
  after : Text
  deriving DecidableEq, Repr

namespace Spelling

/-- The spelling of an address. -/
def ofAddress (cell : Text) : Spelling :=
  ⟨cell.takeWhile Text.isBlank, cell.filter Text.isDigit, cell.rtakeWhile Text.isBlank⟩

/-- A text is the address with the given letters, spelled in the given way. There may be a dollar
sign before the letters and one before the digits. -/
structure Writes (spelling : Spelling) (letters cell : Text) : Prop where
  cell_eq : ∃ first second : Text, (first = [] ∨ first = ['$']) ∧ (second = [] ∨ second = ['$']) ∧
    cell = spelling.before ++ (first ++ letters ++ second ++ spelling.digits) ++ spelling.after
  before_blank : ∀ c ∈ spelling.before, Text.isBlank c = true
  letters_ne_nil : letters ≠ []
  letters_alpha : ∀ c ∈ letters, c.isAlpha = true
  digits_ne_nil : spelling.digits ≠ []
  digits_digit : ∀ c ∈ spelling.digits, Text.isDigit c = true
  after_blank : ∀ c ∈ spelling.after, Text.isBlank c = true

namespace Writes

variable {spelling : Spelling} {letters cell : Text}

/-- An address that is read is the address with its letters in its spelling. -/
theorem of_splitAddress? {digits : Text} (h : splitAddress? cell = some (letters, digits)) :
    ∃ spelling : Spelling, spelling.Writes letters cell ∧ spelling.digits = digits := by
  rw [splitAddress?, List.span_eq_takeWhile_dropWhile] at h
  dsimp only at h
  split at h
  · next hparts =>
    simp only [ne_eq, Bool.and_eq_true, decide_eq_true_eq, List.all_eq_true] at hparts
    obtain ⟨⟨hletters, hdigits⟩, hdigit⟩ := hparts
    obtain ⟨hparted, hrow⟩ := Prod.mk.inj (Option.some.inj h)
    obtain ⟨first, hfirst, htrim⟩ := exists_dollar_append (Text.trim cell)
    obtain ⟨second, hsecond, hrest⟩ :=
      exists_dollar_append ((dropDollar (Text.trim cell)).dropWhile Char.isAlpha)
    obtain ⟨before, after, hbefore, hafter, hcell⟩ := Text.exists_append_trim_append cell
    have hcore : Text.trim cell = first ++ letters ++ second ++ digits := by
      rw [List.append_assoc, List.append_assoc, ← hrow, ← hrest, ← hparted,
        List.takeWhile_append_dropWhile, ← htrim]
    rw [hcore, ← List.append_assoc] at hcell
    exact ⟨⟨before, digits, after⟩,
      { cell_eq := ⟨first, second, hfirst, hsecond, hcell⟩
        before_blank := hbefore
        letters_ne_nil := hparted ▸ hletters
        letters_alpha := fun c hc => List.mem_takeWhile_imp (hparted ▸ hc)
        digits_ne_nil := hrow ▸ hdigits
        digits_digit := hrow ▸ hdigit
        after_blank := hafter }, rfl⟩
  · simp at h

/-- Of an address without its dollar signs, what is picked from its parts is picked. -/
theorem filter_eq (h : spelling.Writes letters cell) {p : Char → Bool} (hdollar : p '$' = false) :
    cell.filter p = spelling.before.filter p ++
      (letters.filter p ++ spelling.digits.filter p) ++ spelling.after.filter p := by
  obtain ⟨first, second, hfirst, hsecond, rfl⟩ := h.cell_eq
  have hsign : ∀ dollar : Text, dollar = [] ∨ dollar = ['$'] → dollar.filter p = [] := by
    rintro dollar (rfl | rfl)
    · rfl
    · simp [hdollar]
  simp only [List.filter_append, hsign first hfirst, hsign second hsecond, List.nil_append,
    List.append_nil]

/-- The letters of an address are found in it. -/
theorem filter_isAlpha (h : spelling.Writes letters cell) : cell.filter Char.isAlpha = letters := by
  have hblank : ∀ {t : Text}, (∀ c ∈ t, Text.isBlank c = true) → t.filter Char.isAlpha = [] := by
    intro t ht
    refine List.filter_eq_nil_iff.mpr fun c hc hletter => ?_
    exact Text.not_mem_of_forall (Text.isBlank_of_isAlpha hletter) ht hc
  have hdigits : spelling.digits.filter Char.isAlpha = [] := by
    refine List.filter_eq_nil_iff.mpr fun c hc => ?_
    rw [Text.isAlpha_of_isDigit (h.digits_digit c hc)]
    decide
  rw [h.filter_eq (by decide), hblank h.before_blank, hblank h.after_blank, hdigits,
    List.filter_eq_self.mpr h.letters_alpha, List.nil_append, List.append_nil, List.append_nil]

/-- The digits of an address are found in it. -/
theorem filter_isDigit (h : spelling.Writes letters cell) :
    cell.filter Text.isDigit = spelling.digits := by
  have hblank : ∀ {t : Text}, (∀ c ∈ t, Text.isBlank c = true) → t.filter Text.isDigit = [] := by
    intro t ht
    refine List.filter_eq_nil_iff.mpr fun c hc hdigit => ?_
    exact Text.not_mem_of_forall (Text.isBlank_of_isDigit hdigit) ht hc
  have hletters : letters.filter Text.isDigit = [] := by
    refine List.filter_eq_nil_iff.mpr fun c hc hdigit => ?_
    exact Text.not_mem_of_forall (Text.isAlpha_of_isDigit hdigit) h.letters_alpha hc
  rw [h.filter_eq (by decide), hblank h.before_blank, hblank h.after_blank, hletters,
    List.filter_eq_self.mpr h.digits_digit, List.nil_append, List.nil_append, List.append_nil]

/-- The spelling of an address is found in it. -/
theorem ofAddress_eq (h : spelling.Writes letters cell) : ofAddress cell = spelling := by
  have hdigits := h.filter_isDigit
  obtain ⟨first, second, hfirst, hsecond, hcell⟩ := h.cell_eq
  have hsign : ∀ dollar : Text, dollar = [] ∨ dollar = ['$'] →
      ∀ c ∈ dollar, Text.isBlank c = false := by
    rintro dollar (rfl | rfl) <;> decide
  have hbody : ∀ c ∈ first ++ letters ++ second ++ spelling.digits, Text.isBlank c = false := by
    simp only [List.forall_mem_append]
    exact ⟨⟨⟨hsign first hfirst, fun c hc => Text.isBlank_of_isAlpha (h.letters_alpha c hc)⟩,
      hsign second hsecond⟩, fun c hc => Text.isBlank_of_isDigit (h.digits_digit c hc)⟩
  have hne : first ++ letters ++ second ++ spelling.digits ≠ [] :=
    List.append_ne_nil_of_right_ne_nil _ h.digits_ne_nil
  generalize first ++ letters ++ second ++ spelling.digits = body at hcell hbody hne
  have hbefore : cell.takeWhile Text.isBlank = spelling.before := by
    rw [hcell, List.append_assoc]
    exact Text.takeWhile_isBlank_append h.before_blank hbody hne spelling.after
  have hafter : cell.rtakeWhile Text.isBlank = spelling.after := by
    rw [hcell, List.rtakeWhile, List.reverse_append, List.reverse_append,
      Text.takeWhile_isBlank_append (by simpa using h.after_blank) (by simpa using hbody)
        (by simpa using hne), List.reverse_reverse]
  rw [ofAddress, hbefore, hdigits, hafter]

/-- Without its dollar signs and in upper case an address is its letters in its spelling. -/
theorem upper_filter_eq (h : spelling.Writes letters cell) :
    Text.upper (cell.filter (· ≠ '$')) =
      spelling.before ++ (Text.upper letters ++ spelling.digits) ++ spelling.after := by
  have hkept : ∀ {t : Text}, '$' ∉ t → t.filter (· ≠ '$') = t := fun ht =>
    List.filter_eq_self.mpr fun c hc => decide_eq_true (ne_of_mem_of_not_mem hc ht)
  have hblank : ∀ {t : Text}, (∀ c ∈ t, Text.isBlank c = true) →
      t.filter (· ≠ '$') = t ∧ Text.upper t = t := fun ht =>
    ⟨hkept (Text.not_mem_of_forall (by decide) ht),
      Text.upper_eq_self fun c hc => Text.upperChar_of_isBlank (ht c hc)⟩
  have hletters : letters.filter (· ≠ '$') = letters :=
    hkept (Text.not_mem_of_forall (by decide) h.letters_alpha)
  have hdigits : spelling.digits.filter (· ≠ '$') = spelling.digits :=
    hkept (Text.not_mem_of_forall (by decide) h.digits_digit)
  have hrow : Text.upper spelling.digits = spelling.digits :=
    Text.upper_eq_self fun c hc => Text.upperChar_of_isDigit (h.digits_digit c hc)
  rw [h.filter_eq (by decide), (hblank h.before_blank).1, hletters, hdigits,
    (hblank h.after_blank).1]
  simp only [Text.upper_append, (hblank h.before_blank).2, hrow, (hblank h.after_blank).2]

/-- Without its dollar signs and in upper case an address has the same spelling. -/
theorem upper_filter (h : spelling.Writes letters cell) :
    spelling.Writes (Text.upper letters) (Text.upper (cell.filter (· ≠ '$'))) := by
  have hletters := Text.upper_of_isAlpha h.letters_alpha
  refine { h with
    cell_eq := ⟨[], [], .inl rfl, .inl rfl, by simpa using h.upper_filter_eq⟩
    letters_ne_nil := ?_
    letters_alpha := ?_ }
  · rw [hletters]
    simpa using h.letters_ne_nil
  · rw [hletters, List.forall_mem_map]
    exact fun c hc => (Text.upperChar_of_isAlpha (h.letters_alpha c hc)).2

end Writes

end Spelling

namespace ScratchCell

/-- A scratch cell is at an address that is read as its letters in upper case and its digits. -/
theorem readAddress_of_at? {spreadsheet sheet cell : Text} {scratch : ScratchCell}
    (h : at? spreadsheet sheet cell = .ok scratch) :
    scratch = ⟨spreadsheet, sheet, cell⟩ ∧
      ∃ letters, (Spelling.ofAddress cell).Writes letters cell ∧ readAddress cell =
        .ok (Text.upper letters, Text.digitsValue (Spelling.ofAddress cell).digits) := by
  cases haddress : readAddress cell with
  | error error =>
    rw [at?, haddress] at h
    cases h
  | ok address =>
    rw [at?, haddress] at h
    obtain rfl := Except.ok.inj h
    refine ⟨rfl, ?_⟩
    unfold readAddress at haddress
    split at haddress
    · cases haddress
    · next letters digits hparts =>
      obtain ⟨spelling, hwrites, rfl⟩ := Spelling.Writes.of_splitAddress? hparts
      split at haddress
      · cases haddress
      · rw [hwrites.ofAddress_eq]
        exact ⟨letters, hwrites, haddress.symm⟩

/-- Two scratch cells have the same lock exactly if they are the same cell of the same sheet and
their addresses are spelled alike: with the same blanks around them and with the same digits, so
with as many zeros before the row and in the same script. The case of the letters and the dollar
signs make no difference. -/
theorem lock_eq_iff {spreadsheet sheet cell spreadsheet' sheet' cell' : Text}
    {scratch other : ScratchCell} (h : at? spreadsheet sheet cell = .ok scratch)
    (h' : at? spreadsheet' sheet' cell' = .ok other) :
    scratch.lock = other.lock ↔ spreadsheet = spreadsheet' ∧ sheet = sheet' ∧
      readAddress cell = readAddress cell' ∧
        Spelling.ofAddress cell = Spelling.ofAddress cell' := by
  obtain ⟨rfl, letters, hwrites, hread⟩ := readAddress_of_at? h
  obtain ⟨rfl, letters', hwrites', hread'⟩ := readAddress_of_at? h'
  have hcell : Text.upper (cell.filter (· ≠ '$')) = Text.upper (cell'.filter (· ≠ '$')) ↔
      readAddress cell = readAddress cell' ∧
        Spelling.ofAddress cell = Spelling.ofAddress cell' := by
    constructor
    · intro hsame
      have hupper := hwrites.upper_filter
      have hupper' := hwrites'.upper_filter
      rw [← hsame] at hupper'
      have hspelling : Spelling.ofAddress cell = Spelling.ofAddress cell' :=
        hupper.ofAddress_eq.symm.trans hupper'.ofAddress_eq
      have hletters : Text.upper letters = Text.upper letters' :=
        hupper.filter_isAlpha.symm.trans hupper'.filter_isAlpha
      rw [hread, hread', hletters, hspelling]
      exact ⟨rfl, rfl⟩
    · rintro ⟨haddress, hspelling⟩
      rw [hread, hread'] at haddress
      have hletters : Text.upper letters = Text.upper letters' :=
        (Prod.mk.inj (Except.ok.inj haddress)).1
      rw [hwrites.upper_filter_eq, hwrites'.upper_filter_eq, hletters, hspelling]
  simp only [lock, Prod.mk.injEq, hcell]

/-- Dollar signs and small letters lead to the same lock. -/
theorem lock_of_dollars : ∃ scratch other,
    at? "book".toList "_sandbox".toList "$a$1".toList = .ok scratch ∧
      at? "book".toList "_sandbox".toList "A1".toList = .ok other ∧ scratch.lock = other.lock := by
  have hdollars : at? "book".toList "_sandbox".toList "$a$1".toList =
      .ok ⟨"book".toList, "_sandbox".toList, "$a$1".toList⟩ := by
    decide +kernel
  have hplain : at? "book".toList "_sandbox".toList "A1".toList =
      .ok ⟨"book".toList, "_sandbox".toList, "A1".toList⟩ := by
    decide +kernel
  exact ⟨_, _, hdollars, hplain, (lock_eq_iff hdollars hplain).mpr (by decide +kernel)⟩

/-- A zero before the row leads to the same cell and to another lock. -/
theorem lock_of_zero : ∃ scratch other,
    at? "book".toList "_sandbox".toList "A1".toList = .ok scratch ∧
      at? "book".toList "_sandbox".toList "A01".toList = .ok other ∧
        readAddress "A1".toList = readAddress "A01".toList ∧ scratch.lock ≠ other.lock :=
  ⟨⟨"book".toList, "_sandbox".toList, "A1".toList⟩,
    ⟨"book".toList, "_sandbox".toList, "A01".toList⟩, by decide +kernel⟩

end ScratchCell

end Rowscript
