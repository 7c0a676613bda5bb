import Mathlib.Data.List.Infix
import Rowscript.Proofs.MarkedFormulas
import Rowscript.Proofs.References

/-!
# Resolving templates part by part

A template is read from left to right, and where a reference ends decides where the next one is
looked for. As references never overlap, this makes no difference: a reference is found at every
place where one is written. So a template can be resolved part by part, wherever it is cut
between references, and each reference is replaced by its own value once. What the value looks
like, and which values other columns have, makes no difference.
-/

namespace Rowscript

/-- A reference is found in a text, behind the given number of characters. -/
def ReferenceAt (t : Text) (start : Nat) (r : Reference) : Prop :=
  ∃ before after, pieces t = before ++ .reference r :: after ∧
    (before.flatMap Piece.render).length = start

/-- A reference that is found in a text is one of its references. -/
theorem ReferenceAt.mem_references {t : Text} {start : Nat} {r : Reference}
    (h : ReferenceAt t start r) : r ∈ references t := by
  obtain ⟨before, after, hpieces, -⟩ := h
  exact Rowscript.mem_references.mpr (hpieces ▸ List.mem_append_cons_self)

/-- A reference is found wherever one is written. -/
theorem referenceAt_iff {t : Text} {start : Nat} {r : Reference} :
    ReferenceAt t start r ↔
      r.WellFormed ∧ ∃ front back, t = front ++ (r.render ++ back) ∧ front.length = start := by
  constructor
  · intro h
    have hwell := wellFormed_of_mem_references h.mem_references
    obtain ⟨before, after, hpieces, rfl⟩ := h
    refine ⟨hwell, before.flatMap Piece.render, after.flatMap Piece.render, ?_, rfl⟩
    conv_lhs => rw [← flatMap_render_pieces t, hpieces]
    simp [Piece.render]
  · rintro ⟨hr, front, back, rfl, rfl⟩
    refine ⟨pieces front, pieces back, ?_, by rw [flatMap_render_pieces]⟩
    rw [pieces_append (separate_render front back), pieces_render_append hr]

/-- No reference of two texts together begins in the first one and ends in the second. -/
def Uncut (s t : Text) : Prop :=
  ∀ start r, ReferenceAt (s ++ t) start r → start < s.length → start + r.render.length ≤ s.length

/-- Texts cut no reference when they are separate: what can be read from a place of the first
one ends there. -/
theorem uncut_iff_separate {s t : Text} : Uncut s t ↔ Separate s t := by
  constructor
  · rintro h right ⟨front, rfl⟩ hne r rest hscan
    obtain ⟨hr, heq⟩ := Reference.scan?_eq_some_iff.mp hscan
    have hfound : ReferenceAt (front ++ right ++ t) front.length r :=
      referenceAt_iff.mpr ⟨hr, front, rest, by rw [List.append_assoc, heq], rfl⟩
    have hright := List.length_pos_iff.mpr hne
    have hend := h front.length r hfound (by rw [List.length_append]; omega)
    rw [List.length_append, Nat.add_le_add_iff_left] at hend
    obtain ⟨gap, hgap⟩ := List.prefix_of_prefix_length_le ⟨rest, rfl⟩ ⟨t, heq⟩ hend
    rw [← hgap, List.append_assoc, List.append_cancel_left_eq] at heq
    exact ⟨gap, heq⟩
  · intro h start r hfound hstart
    obtain ⟨hr, front, back, htext, rfl⟩ := referenceAt_iff.mp hfound
    obtain ⟨right, rfl⟩ := List.prefix_of_prefix_length_le ⟨r.render ++ back, htext.symm⟩ ⟨t, rfl⟩
      hstart.le
    have hne : right ≠ [] := by
      rintro rfl
      simp at hstart
    rw [List.append_assoc, List.append_cancel_left_eq] at htext
    have hend := (h right ⟨front, rfl⟩ hne r back
      (Reference.scan?_eq_some_iff.mpr ⟨hr, htext⟩)).length_le
    have hlength := congrArg List.length htext
    simp only [List.length_append] at hlength ⊢
    omega

namespace Context

variable (ctx : Context) (live : Bool)

/-- The text that is put in the place of a reference: the address of the cell where that is asked
for and known, and otherwise the value. -/
def replacement (r : Reference) : Text :=
  (if live then ctx.address? r else none).getD (ctx.substitute r)

/-- A reference is resolved to what is put in its place. -/
theorem resolvePiece_reference (r : Reference) :
    ctx.resolvePiece live (.reference r) = ctx.replacement live r := by
  cases haddress : ctx.address? r <;> cases live <;> 
    simp [resolvePiece_reference_eq, replacement, haddress]

/-- Separate texts are resolved one after the other. -/
theorem resolve_append {s t : Text} (h : Separate s t) :
    ctx.resolve live (s ++ t) = ctx.resolve live s ++ ctx.resolve live t := by
  rw [resolve_eq_flatMap, resolve_eq_flatMap, resolve_eq_flatMap, pieces_append h,
    List.flatMap_append]

/-- A reference in front of a text is replaced, and the text is resolved by itself. -/
theorem resolve_render_append {r : Reference} (hr : r.WellFormed) (t : Text) :
    ctx.resolve live (r.render ++ t) = ctx.replacement live r ++ ctx.resolve live t := by
  rw [resolve_eq_flatMap, pieces_render_append hr, List.flatMap_cons, resolvePiece_reference,
    resolve_eq_flatMap]

/-- A template is resolved to the same text in contexts that agree on its references. -/
theorem resolve_congr {ctx ctx' : Context} {t : Text}
    (h : ∀ r ∈ references t, ctx.replacement live r = ctx'.replacement live r) :
    ctx.resolve live t = ctx'.resolve live t := by
  rw [resolve_eq_flatMap, resolve_eq_flatMap]
  refine congrArg List.flatten (List.map_congr_left fun piece hpiece => ?_)
  cases piece with
  | char c => rfl
  | reference r =>
    rw [resolvePiece_reference, resolvePiece_reference]
    exact h r (mem_references.mpr hpiece)

/-- Resolving a template is a single pass over its parts. Texts that cut no reference are
resolved one after the other, a text without references stays, and a reference gives what is put
in its place, which is not resolved again wherever the reference stands. Only the values of the
columns that a template names count. -/
theorem resolve_by_parts :
    (∀ s t, Uncut s t → ctx.resolve live (s ++ t) = ctx.resolve live s ++ ctx.resolve live t) ∧
    (∀ t, references t = [] → ctx.resolve live t = t) ∧
    (∀ r : Reference, r.WellFormed → ctx.resolve live r.render = ctx.replacement live r) ∧
    (∀ r : Reference, r.WellFormed → ∀ s t, ctx.resolve live (s ++ (r.render ++ t)) =
      ctx.resolve live s ++ (ctx.replacement live r ++ ctx.resolve live t)) ∧
    (∀ ctx' : Context, ctx'.style = ctx.style → ∀ t,
      (∀ r ∈ references t, ctx'.value r = ctx.value r ∧ ctx'.address? r = ctx.address? r) →
      ctx'.resolve live t = ctx.resolve live t) := by
  refine ⟨fun s t h => ctx.resolve_append live (uncut_iff_separate.mp h),
    fun t h => ctx.resolve_of_references_eq_nil live h, fun r hr => ?_, fun r hr s t => ?_,
    fun ctx' hstyle t h => ?_⟩
  · have hrender := ctx.resolve_render_append live hr []
    rw [List.append_nil] at hrender
    rw [hrender, resolve_eq_flatMap, pieces_nil, List.flatMap_nil, List.append_nil]
  · rw [ctx.resolve_append live (separate_render s t), ctx.resolve_render_append live hr]
  · refine resolve_congr live fun r hr => ?_
    obtain ⟨hvalue, haddress⟩ := h r hr
    rw [replacement, replacement, haddress, substitute, substitute, hstyle, hvalue]

/-- A value that looks like a reference stays, next to a reference to the column that it looks
like and whose name is the beginning of its own. -/
theorem resolve_value_like_reference :
    Uncut "src[Amount Net]".toList "-src[Amount]".toList ∧
      (Context.mk
        [("Amount".toList, .text ['1']), ("Amount Net".toList, .text "src[Amount]".toList)]
        [] [] .display).resolve true "src[Amount Net]-src[Amount]".toList =
          "src[Amount]-1".toList := by
  have hcut : Uncut "src[Amount Net]".toList "-src[Amount]".toList := by
    have htails : ∀ right ∈ "src[Amount Net]".toList.tails, right ≠ [] →
        ∀ q ∈ Reference.scan? (right ++ "-src[Amount]".toList),
          "-src[Amount]".toList <:+ q.2 := by
      decide +kernel
    exact uncut_iff_separate.mpr fun right hsuffix hne r rest hscan =>
      htails right ((List.mem_tails right _).mpr hsuffix) hne (r, rest) hscan
  let ctx : Context :=
    ⟨[("Amount".toList, .text ['1']), ("Amount Net".toList, .text "src[Amount]".toList)], [], [],
      .display⟩
  obtain ⟨happend, hplain, hrender, hinside, -⟩ := ctx.resolve_by_parts true
  have hnet : ctx.resolve true "src[Amount Net]".toList = "src[Amount]".toList :=
    hrender ⟨.source, "Amount Net".toList⟩ (by decide)
  have hamount : ctx.resolve true "-src[Amount]".toList = "-1".toList := by
    have hrest := hinside ⟨.source, "Amount".toList⟩ (by decide) ['-'] []
    rwa [hplain ['-'] (by decide +kernel), hplain [] (by decide +kernel)] at hrest
  exact ⟨hcut, (happend _ _ hcut).trans (by rw [hnet, hamount]; rfl)⟩

end Context

end Rowscript
