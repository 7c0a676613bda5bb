import Mathlib.Tactic.ByContra
import Rowscript.Rule.Reference

/-!
# Where references stand

Two references in a text never overlap, because a column name holds no bracket and a
keyword has its only `s` at its beginning. So reading a template from left to right finds
every reference that is written in it, and a part of a text has no references but those
of the text.
-/

namespace Rowscript

namespace Text

/-- A beginning is read back from the text that it is written in front of. -/
@[simp] theorem after?_append (beginning rest : Text) :
    after? beginning (beginning ++ rest) = some rest := by
  induction beginning with
  | nil => rfl
  | cons b beginning ih => simpa [after?] using ih

/-- A text has a beginning exactly when something can be written after it to give the text. -/
theorem after?_eq_some_iff {beginning t rest : Text} :
    after? beginning t = some rest ↔ t = beginning ++ rest := by
  refine ⟨eq_append_of_after?, ?_⟩
  rintro rfl
  exact after?_append beginning rest

end Text

/-- The first bracket of a text. -/
def Text.firstBracket? (t : Text) : Option Char := t.find? fun c => !Reference.isColumnChar c

/-- The first bracket of a text stands behind characters that are none. -/
theorem Text.firstBracket?_eq_some_iff {t : Text} {bracket : Char} :
    t.firstBracket? = some bracket ↔ Reference.isColumnChar bracket = false ∧
      ∃ front rest, t = front ++ bracket :: rest ∧
        ∀ c ∈ front, Reference.isColumnChar c = true := by
  simp [firstBracket?, List.find?_eq_some_iff_append]

namespace Origin

/-- The keyword of an origin has an `s` only at its beginning. -/
theorem s_not_mem_tail_opening (origin : Origin) : 's' ∉ origin.opening.tail := by
  cases origin <;> decide

/-- The keyword of an origin ends with an opening bracket. -/
theorem bracket_mem_opening (origin : Origin) : '[' ∈ origin.opening := by
  cases origin <;> decide

/-- The keyword of an origin holds no closing bracket. -/
theorem close_not_mem_opening (origin : Origin) : ']' ∉ origin.opening := by
  cases origin <;> decide

/-- The keyword of an origin holds no blank. -/
theorem isBlank_of_mem_opening (origin : Origin) :
    ∀ c ∈ origin.opening, Text.isBlank c = false := by
  cases origin <;> decide

end Origin

namespace Reference

/-- The column name of a reference holds no bracket, so what is written can be read back. -/
def WellFormed (r : Reference) : Prop := ∀ c ∈ r.column, isColumnChar c = true

instance (r : Reference) : Decidable r.WellFormed :=
  List.decidableBAll _ r.column

/-- A column name is read back together with its bracket. -/
theorem scanColumn?_append {column : Text} (hcolumn : ∀ c ∈ column, isColumnChar c = true)
    (rest : Text) : scanColumn? (column ++ ']' :: rest) = some (column, rest) := by
  have hclose : isColumnChar ']' = false := by decide
  simp [scanColumn?, List.takeWhile_append_of_pos hcolumn, List.dropWhile_append_of_pos hcolumn,
    hclose]

/-- A reference is read back by its own origin. -/
theorem scanFrom?_render_append {r : Reference} (hr : r.WellFormed) (rest : Text) :
    scanFrom? r.origin (r.render ++ rest) = some (r, rest) := by
  simp [scanFrom?, render, List.append_assoc, scanColumn?_append hr]

/-- A well-formed reference is read back from the beginning of a text. -/
theorem scan?_render_append {r : Reference} (hr : r.WellFormed) (rest : Text) :
    scan? (r.render ++ rest) = some (r, rest) := by
  have hown := scanFrom?_render_append hr rest
  rcases r with ⟨_ | _, column⟩
  · simp only [scan?, hown, Option.some_or]
  · have hother : scanFrom? .source (render ⟨.output, column⟩ ++ rest) = none := by
      simp [scanFrom?, render, Origin.opening, Text.after?]
    simp only [scan?, hother, hown, Option.none_or]

/-- A reference of one origin that is read has a column name without brackets. -/
theorem wellFormed_of_scanFrom? {origin : Origin} {t rest : Text} {r : Reference}
    (h : scanFrom? origin t = some (r, rest)) : r.WellFormed := by
  simp only [scanFrom?, Option.map_eq_some_iff, Option.bind_eq_some_iff, Prod.mk.injEq] at h
  obtain ⟨⟨column, tail⟩, ⟨inside, -, hread⟩, rfl, rfl⟩ := h
  unfold scanColumn? at hread
  split at hread
  · simp only [Option.some.injEq, Prod.mk.injEq] at hread
    obtain ⟨rfl, rfl⟩ := hread
    exact List.all_eq_true.mp List.all_takeWhile
  · simp at hread

/-- A reference that is read has a column name without brackets. -/
theorem wellFormed_of_scan? {t rest : Text} {r : Reference} (h : scan? t = some (r, rest)) :
    r.WellFormed := by
  rcases Option.or_eq_some_iff.mp h with h | ⟨_, h⟩
  · exact wellFormed_of_scanFrom? h
  · exact wellFormed_of_scanFrom? h

/-- Reading a reference is taking a well-formed one off the beginning. -/
theorem scan?_eq_some_iff {t rest : Text} {r : Reference} :
    scan? t = some (r, rest) ↔ r.WellFormed ∧ t = r.render ++ rest := by
  constructor
  · exact fun h => ⟨wellFormed_of_scan? h, eq_append_of_scan? h⟩
  · rintro ⟨hr, rfl⟩
    exact scan?_render_append hr rest

/-- Behind its keyword a reference goes on up to the first bracket, which has to close. -/
theorem exists_render_append (origin : Origin) {t : Text} (h : t.firstBracket? = some ']') :
    ∃ column rest, WellFormed ⟨origin, column⟩ ∧
      origin.opening ++ t = render ⟨origin, column⟩ ++ rest := by
  obtain ⟨-, column, rest, rfl, hcolumn⟩ := Text.firstBracket?_eq_some_iff.mp h
  exact ⟨column, rest, hcolumn, by simp [render]⟩

/-- The first bracket behind the keyword of a reference is the one that closes it. -/
theorem firstBracket?_of_render {r : Reference} (hr : r.WellFormed) {t rest : Text}
    (h : r.origin.opening ++ t = r.render ++ rest) : t.firstBracket? = some ']' := by
  rw [render, List.append_assoc, List.append_assoc, List.append_cancel_left_eq] at h
  exact Text.firstBracket?_eq_some_iff.mpr ⟨by decide, r.column, rest, h, hr⟩

/-- The keyword of a reference is that of its origin. -/
theorem origin_eq_of_render {origin : Origin} {r : Reference} {t rest : Text}
    (h : origin.opening ++ t = r.render ++ rest) : r.origin = origin := by
  rcases r with ⟨_ | _, column⟩ <;> cases origin <;> simp_all [render, Origin.opening]

/-- A reference is written from the `s` of its keyword on. -/
theorem render_eq_cons (r : Reference) : ∃ rest, r.render = 's' :: rest := by
  rcases r with ⟨_ | _, column⟩ <;> exact ⟨_, rfl⟩

/-- No reference begins in a text without an `s`. -/
theorem render_isInfix_right {r : Reference} {s t : Text} (hs : 's' ∉ s)
    (h : r.render <:+: s ++ t) : r.render <:+: t := by
  obtain ⟨tail, htail⟩ := r.render_eq_cons
  rcases List.infix_append_iff.mp h with hleft | hright | ⟨overlap, rest, hsplit, hend, hbegin⟩
  · exact absurd (hleft.subset (htail ▸ List.mem_cons_self)) hs
  · exact hright
  · cases overlap with
    | nil => exact hsplit ▸ hbegin.isInfix
    | cons c overlap =>
      have hc : 's' = c := (List.cons.inj (htail.symm.trans hsplit)).1
      exact absurd (hend.subset (hc ▸ List.mem_cons_self)) hs

/-- No reference ends in a text without a closing bracket. -/
theorem render_isInfix_left {r : Reference} {s t : Text} (ht : ']' ∉ t)
    (h : r.render <:+: s ++ t) : r.render <:+: s := by
  rcases List.infix_append_iff.mp h with hleft | hright | ⟨rest, overlap, hsplit, hend, hbegin⟩
  · exact hleft
  · exact absurd (hright.subset (List.mem_append_right _ List.mem_cons_self)) ht
  · rcases overlap.eq_nil_or_concat with rfl | ⟨front, c, rfl⟩
    · rw [List.append_nil] at hsplit
      exact hsplit ▸ hend.isInfix
    · rw [List.concat_eq_append] at hsplit hbegin
      rw [render, ← List.append_assoc] at hsplit
      have hc : [']'] = [c] := List.append_inj_right' hsplit rfl
      exact absurd (hbegin.subset (List.mem_append_right _ (hc ▸ List.mem_cons_self))) ht

/-- A reference does not begin inside the column name of another one or at its bracket: it
would have to open a bracket before it closes one. -/
theorem eq_nil_of_suffix_column {q r : Reference} (hq : q.WellFormed) {overlap rest after : Text}
    (hsuffix : overlap <:+ q.column ++ [']'])
    (heq : overlap ++ rest = r.render ++ after) : overlap = [] := by
  by_contra hne
  have hopen : '[' ∉ overlap := by
    intro hmem
    rcases List.mem_append.mp (hsuffix.subset hmem) with hmem | hmem
    · exact absurd (hq _ hmem) (by decide)
    · simp at hmem
  have hclose : ']' ∈ overlap := by
    obtain ⟨front, hfront⟩ := hsuffix
    have hlast : (front ++ overlap).getLast? = some ']' := by rw [hfront, List.getLast?_concat]
    rw [List.getLast?_append, List.getLast?_eq_some_getLast hne, Option.some_or] at hlast
    exact Option.some.inj hlast ▸ List.getLast_mem hne
  rw [render, List.append_assoc, List.append_assoc] at heq
  rcases List.append_eq_append_iff.mp heq with ⟨gap, hgap, _⟩ | ⟨gap, hgap, _⟩
  · exact r.origin.close_not_mem_opening (hgap ▸ List.mem_append_left gap hclose)
  · exact hopen (hgap ▸ List.mem_append_left gap r.origin.bracket_mem_opening)

/-- References do not overlap: where one is read at the beginning of a text, another one
stands there too only if both begin together, or behind the first. -/
theorem eq_nil_or_eq_append_of_render {q r : Reference} (hq : q.WellFormed)
    {rest before after : Text} (heq : q.render ++ rest = before ++ (r.render ++ after)) :
    before = [] ∨ ∃ gap, rest = gap ++ (r.render ++ after) := by
  rcases List.append_eq_append_iff.mp heq with ⟨gap, _, hrest⟩ | ⟨overlap, hrender, hover⟩
  · exact .inr ⟨gap, hrest⟩
  by_cases hbefore : before = []
  · exact .inl hbefore
  right
  rw [render, List.append_assoc] at hrender
  have hnil : overlap = [] := by
    rcases List.append_eq_append_iff.mp hrender with ⟨gap, _, hcolumn⟩ | ⟨gap, hopening, hgap⟩
    · exact eq_nil_of_suffix_column hq ⟨gap, hcolumn.symm⟩ hover.symm
    · -- The overlap begins inside the keyword, where no other keyword can begin.
      cases gap with
      | nil =>
        exact eq_nil_of_suffix_column hq ⟨[], by simpa using hgap⟩ hover.symm
      | cons c gap =>
        obtain ⟨tail, htail⟩ := r.render_eq_cons
        obtain ⟨b, before, rfl⟩ := List.exists_cons_of_ne_nil hbefore
        have hc : c = 's' := by
          rw [hgap, htail] at hover
          simpa using (List.cons.inj hover).1.symm
        refine absurd ?_ q.origin.s_not_mem_tail_opening
        rw [hopening, hc]
        simp
  exact ⟨[], by simpa [hnil] using hover.symm⟩

end Reference

/-- No reference begins in the first text and ends in the second: whatever is read at a
place of the first leaves all of the second. -/
def Separate (s t : Text) : Prop :=
  ∀ right, right <:+ s → right ≠ [] → ∀ r rest,
    Reference.scan? (right ++ t) = some (r, rest) → t <:+ rest

/-- A reference that follows a text is separate from it. -/
theorem separate_render {r : Reference} (s rest : Text) : Separate s (r.render ++ rest) := by
  intro right _ hne q tail hscan
  obtain ⟨hq, heq⟩ := Reference.scan?_eq_some_iff.mp hscan
  rcases Reference.eq_nil_or_eq_append_of_render hq heq.symm with hnil | ⟨gap, hgap⟩
  · exact absurd hnil hne
  · exact ⟨gap, hgap.symm⟩

@[simp] theorem pieces_nil : pieces [] = [] := by rw [pieces]

/-- A reference at the beginning of a text is its first piece. -/
theorem pieces_of_scan? {t rest : Text} {r : Reference} (h : Reference.scan? t = some (r, rest)) :
    pieces t = .reference r :: pieces rest := by
  cases t with
  | nil => simp [Reference.scan?, Reference.scanFrom?, Origin.opening, Text.after?] at h
  | cons c t =>
    rw [pieces]
    split
    · next q tail hq =>
      rw [h] at hq
      obtain ⟨rfl, rfl⟩ := Prod.mk.inj (Option.some.inj hq)
      rfl
    · next hnone => simp [h] at hnone

/-- A character where no reference begins is a piece by itself. -/
theorem pieces_cons_of_scan?_eq_none {c : Char} {t : Text}
    (h : Reference.scan? (c :: t) = none) : pieces (c :: t) = .char c :: pieces t := by
  rw [pieces]
  split
  · next hq => simp [h] at hq
  · rfl

/-- A reference is the first piece of a text that it begins. -/
theorem pieces_render_append {r : Reference} (hr : r.WellFormed) (rest : Text) :
    pieces (r.render ++ rest) = .reference r :: pieces rest :=
  pieces_of_scan? (Reference.scan?_render_append hr rest)

/-- The pieces of separate texts follow one another. -/
theorem pieces_append {s t : Text} (h : Separate s t) : pieces (s ++ t) = pieces s ++ pieces t := by
  fun_induction pieces s with
  | case1 => simp
  | case2 c s r rest hscan ih =>
    have hs := Reference.eq_append_of_scan? hscan
    have hrest : Separate rest t := fun right hright =>
      h right (hright.trans ⟨r.render, hs.symm⟩)
    rw [hs, List.append_assoc, pieces_render_append (Reference.wellFormed_of_scan? hscan), ih hrest,
      List.cons_append]
  | case3 c s hscan ih =>
    have hnone : Reference.scan? (c :: (s ++ t)) = none := by
      rw [Option.eq_none_iff_forall_not_mem]
      rintro ⟨r, rest⟩ hread
      obtain ⟨gap, hgap⟩ := h (c :: s) List.suffix_rfl (by simp) r rest hread
      obtain ⟨hr, heq⟩ := Reference.scan?_eq_some_iff.mp hread
      rw [← hgap, ← List.append_assoc, ← List.cons_append] at heq
      rw [List.append_cancel_right heq, Reference.scan?_render_append hr] at hscan
      simp at hscan
    have hrest : Separate s t := fun right hright => h right (hright.trans (List.suffix_cons c s))
    rw [List.cons_append, pieces_cons_of_scan?_eq_none hnone, ih hrest, List.cons_append]

/-- The pieces of a text give it back. -/
theorem flatMap_render_pieces (t : Text) : (pieces t).flatMap Piece.render = t := by
  fun_induction pieces t with
  | case1 => rfl
  | case2 c t r rest hscan ih => simp [Piece.render, ih, Reference.eq_append_of_scan? hscan]
  | case3 c t hscan ih => simp [Piece.render, ih]

/-- The references of a text are the pieces of it that are references. -/
theorem mem_references {t : Text} {r : Reference} :
    r ∈ references t ↔ Piece.reference r ∈ pieces t := by
  unfold references
  rw [List.mem_filterMap]
  constructor
  · rintro ⟨_ | q, hmem, hq⟩
    · simp at hq
    · simpa [← Option.some.inj hq] using hmem
  · exact fun hmem => ⟨_, hmem, rfl⟩

/-- A reference of a text has a column name without brackets. -/
theorem wellFormed_of_mem_references {t : Text} {r : Reference} (h : r ∈ references t) :
    r.WellFormed := by
  rw [mem_references] at h
  fun_induction pieces t with
  | case1 => simp at h
  | case2 c t q rest hscan ih =>
    rcases List.mem_cons.mp h with h | h
    · rw [Piece.reference.inj h]
      exact Reference.wellFormed_of_scan? hscan
    · exact ih h
  | case3 c t hscan ih => exact ih (by simpa using h)

/-- The references of a text are exactly the well-formed ones that are written in it. -/
theorem mem_references_iff {t : Text} {r : Reference} :
    r ∈ references t ↔ r.WellFormed ∧ r.render <:+: t := by
  constructor
  · intro h
    refine ⟨wellFormed_of_mem_references h, ?_⟩
    obtain ⟨before, after, hsplit⟩ := List.append_of_mem (mem_references.mp h)
    refine ⟨before.flatMap Piece.render, after.flatMap Piece.render, ?_⟩
    rw [← flatMap_render_pieces t, hsplit]
    simp [Piece.render]
  · rintro ⟨hr, before, after, rfl⟩
    rw [mem_references, List.append_assoc, pieces_append (separate_render before after),
      pieces_render_append hr]
    simp

/-- A part of a text has no references but those of the text. -/
theorem references_subset_of_isInfix {s t : Text} (h : s <:+: t) : references s ⊆ references t := by
  intro r hr
  obtain ⟨hwell, hinfix⟩ := mem_references_iff.mp hr
  exact mem_references_iff.mpr ⟨hwell, hinfix.trans h⟩

end Rowscript
