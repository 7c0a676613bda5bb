import Mathlib.Tactic.Common
import Rowscript.Table.Address

/-!
# Ranges of different sheets

A range quotes the name of its sheet and writes the quotes in the name twice, so the name ends
where a single quote stands. Hence ranges can be read back: a reader that stops at the first
quote without another behind it accepts exactly the ranges and gives the sheet and the cells of
each. So ranges of different sheets never coincide, whatever their names hold.
-/

namespace Rowscript

namespace Text

/-- The quote itself is written twice. -/
theorem double_cons_self (quote : Char) (t : Text) :
    double quote (quote :: t) = quote :: quote :: double quote t := by
  simp [double]

/-- Another character is written as it is. -/
theorem double_cons_of_ne {quote c : Char} (hc : c ≠ quote) (t : Text) :
    double quote (c :: t) = c :: double quote t := by
  simp [double, hc]

/-- Reads a text whose quotes are written twice up to the first quote that stands alone, and gives
what is behind that quote. -/
def unquote? (quote : Char) : Text → Option (Text × Text)
  | [] => none
  | [c] => if c = quote then some ([], []) else none
  | c :: d :: rest =>
    if c ≠ quote then (unquote? quote (d :: rest)).map fun (t, after) => (c :: t, after)
    else if d = quote then (unquote? quote rest).map fun (t, after) => (quote :: t, after)
    else some ([], d :: rest)

section Unquote

variable {quote : Char} {t rest written : Text}

/-- A character other than the quote is read as it is. -/
theorem unquote?_cons_of_ne {c : Char} (hc : c ≠ quote) (t : Text) :
    unquote? quote (c :: t) = (unquote? quote t).map fun (s, after) => (c :: s, after) := by
  cases t with
  | nil => simp [unquote?, hc]
  | cons d t => rw [unquote?, if_pos hc]

/-- What is read has its quotes doubled in front of a quote without another behind it. -/
theorem eq_of_unquote? (h : unquote? quote written = some (t, rest)) :
    written = double quote t ++ quote :: rest ∧ rest.head? ≠ some quote := by
  fun_induction unquote? quote written generalizing t with
  | case1 => simp at h
  | case2 =>
    obtain ⟨rfl, rfl⟩ := Prod.mk.inj (Option.some.inj h)
    exact ⟨rfl, nofun⟩
  | case3 => simp at h
  | case4 c d after hc ih =>
    obtain ⟨⟨s, _⟩, hread, heq⟩ := Option.map_eq_some_iff.mp h
    obtain ⟨rfl, rfl⟩ := Prod.mk.inj heq
    obtain ⟨htext, hrest⟩ := ih hread
    exact ⟨by rw [double_cons_of_ne hc, htext, List.cons_append], hrest⟩
  | case5 c after hc ih =>
    obtain rfl := not_not.mp hc
    obtain ⟨⟨s, _⟩, hread, heq⟩ := Option.map_eq_some_iff.mp h
    obtain ⟨rfl, rfl⟩ := Prod.mk.inj heq
    obtain ⟨htext, hrest⟩ := ih hread
    exact ⟨by rw [double_cons_self, htext, List.cons_append, List.cons_append], hrest⟩
  | case6 c d after hc hd =>
    obtain rfl := not_not.mp hc
    obtain ⟨rfl, rfl⟩ := Prod.mk.inj (Option.some.inj h)
    exact ⟨rfl, by simpa using hd⟩

/-- Any text with its quotes doubled is read back up to a quote without another behind it. -/
theorem unquote?_double_append (t : Text) (hrest : rest.head? ≠ some quote) :
    unquote? quote (double quote t ++ quote :: rest) = some (t, rest) := by
  induction t with
  | nil =>
    cases rest with
    | nil => simp [double, unquote?]
    | cons d rest =>
      have hd : d ≠ quote := by simpa using hrest
      simp [double, unquote?, hd]
  | cons c t ih =>
    by_cases hc : c = quote
    · rw [hc, double_cons_self, List.cons_append, List.cons_append, unquote?, if_neg (by simp),
        if_pos rfl, ih]
      rfl
    · rw [double_cons_of_ne hc, List.cons_append, unquote?_cons_of_ne hc, ih]
      rfl

end Unquote

end Text

/-- A range is the quoted name of its sheet, and behind it the cells if there are any. -/
theorem sheetRange_eq (sheet cells : Text) :
    sheetRange sheet cells = '\'' :: (Text.double '\'' sheet ++
      '\'' :: if cells = [] then [] else '!' :: cells) := by
  unfold sheetRange
  split <;> simp

/-- Reads a range: its sheet and its cells, which are missing from the range of a whole sheet. -/
def readRange? : Text → Option (Text × Text)
  | '\'' :: quoted =>
    match Text.unquote? '\'' quoted with
    | some (sheet, []) => some (sheet, [])
    | some (sheet, '!' :: c :: cells) => some (sheet, c :: cells)
    | _ => none
  | _ => none

/-- A range is read back as its sheet and its cells. -/
theorem readRange?_sheetRange (sheet cells : Text) :
    readRange? (sheetRange sheet cells) = some (sheet, cells) := by
  rw [sheetRange_eq, readRange?]
  cases cells with
  | nil => rw [Text.unquote?_double_append sheet (by simp)]; rfl
  | cons c cells => rw [Text.unquote?_double_append sheet (by simp)]; rfl

/-- Nothing but ranges is read. -/
theorem eq_sheetRange_of_readRange? {range sheet cells : Text}
    (h : readRange? range = some (sheet, cells)) : range = sheetRange sheet cells := by
  rw [sheetRange_eq]
  unfold readRange? at h
  split at h
  · next quoted =>
    split at h
    · next hread =>
      obtain ⟨rfl, rfl⟩ := Prod.mk.inj (Option.some.inj h)
      rw [(Text.eq_of_unquote? hread).1, if_pos rfl]
    · next hread =>
      obtain ⟨rfl, rfl⟩ := Prod.mk.inj (Option.some.inj h)
      rw [(Text.eq_of_unquote? hread).1, if_neg (List.cons_ne_nil _ _)]
    · simp at h
  · simp at h

/-- A range tells its sheet and its cells. -/
theorem sheetRange_inj {sheet other cells more : Text} :
    sheetRange sheet cells = sheetRange other more ↔ sheet = other ∧ cells = more := by
  constructor
  · intro h
    have hread := congrArg readRange? h
    rw [readRange?_sheetRange, readRange?_sheetRange] at hread
    exact Prod.mk.inj (Option.some.inj hread)
  · rintro ⟨rfl, rfl⟩
    rfl

/-- Ranges are unambiguous. A text is read as a range exactly when it is the range of the sheet
and the cells that are read from it, and two ranges are the same only if their sheets and their
cells are. -/
theorem ranges_unambiguous :
    (∀ range sheet cells : Text,
      readRange? range = some (sheet, cells) ↔ range = sheetRange sheet cells) ∧
    ∀ sheet other cells more : Text,
      sheetRange sheet cells = sheetRange other more ↔ sheet = other ∧ cells = more := by
  constructor
  · intro range sheet cells
    constructor
    · exact eq_sheetRange_of_readRange?
    · rintro rfl
      exact readRange?_sheetRange sheet cells
  · intro sheet other cells more
    exact sheetRange_inj

/-- A sheet name may hold quotes and look like a range of another sheet. -/
example : sheetRange "a'!b".toList "A1".toList = "'a''!b'!A1".toList := by decide

end Rowscript
