import Rowscript.Proofs.Templates
import Rowscript.Proofs.TokenPlaces

/-!
# References and their tokens

A reference that is written in a text begins in one of its tokens. Only the tokens of references,
strings, formulas and plain text hold the keyword of a reference, and the token of a reference
reaches over no place where another one begins. So a reference has a token of its own unless it
begins in a string, a formula or plain text. Plain text ends where another token can begin, and
so it hides only references that follow a character of a word.
-/

namespace Rowscript

namespace Token

/-- A token of a reference's kind is the token of a reference. -/
theorem Shape.eq_ofReference {token : Token} (h : token.Shape)
    (hkind : token.kind ∈ [TokenKind.sourceRef, .selfRef]) :
    ∃ r : Reference, r.WellFormed ∧ token = ofReference r := by
  cases h with
  | reference r hr => exact ⟨r, hr, rfl⟩
  | _ => exact absurd hkind (by simp [plain])

/-- Different references have different tokens. -/
theorem ofReference_injective : Function.Injective ofReference := by
  rintro ⟨_ | _, column⟩ ⟨_ | _, column'⟩ h <;> simp_all [ofReference]

/-- No keyword of a reference begins in an operator, a number or a mark between alternatives. -/
theorem Shape.kind_of_s_mem {token : Token} (h : token.Shape) (hs : 's' ∈ token.raw) :
    token.kind ∈ [TokenKind.sourceRef, .selfRef] ∨
      token.kind ∈ [TokenKind.string, .formula, .text] := by
  have hnumber := fun hkind => h.not_mem_of_number hkind (c := 's') (by decide) (by decide)
  cases h with
  | reference r _ => rcases kind_ofReference r with hr | hr <;> simp [hr]
  | operator op => cases op <;> exact absurd hs (by decide)
  | whole | fraction => exact absurd hs (hnumber rfl)
  | or => exact absurd hs (by decide)
  | _ => simp [plain]

end Token

/-- A reference is found where its token is read. -/
theorem TokenAt.referenceAt {t : Text} {start : Nat} {r : Reference}
    (h : TokenAt t start (.ofReference r)) : ReferenceAt t start r := by
  obtain ⟨q, hq, hsame⟩ := h.shape.eq_ofReference (by
    rcases Token.kind_ofReference r with hr | hr <;> simp [hr])
  obtain rfl := Token.ofReference_injective hsame
  obtain ⟨before, c, rest, rfl, rfl, -, hfirst⟩ := h.exists_first
  obtain ⟨following, hfollowing⟩ := hfirst ▸ (Token.shape_first c rest).2
  rw [Token.raw_ofReference] at hfollowing
  exact referenceAt_iff.mpr ⟨hq, before, following, by rw [hfollowing], rfl⟩

/-- A reference that is written in a text is the one whose token reaches over its place, if that
token is the token of a reference. -/
theorem eq_of_ofReference_at {front back : Text} {r q : Reference} {start : Nat}
    (hr : r.WellFormed) (h : TokenAt (front ++ (r.render ++ back)) start (.ofReference q))
    (hstart : start ≤ front.length) (hstop : front.length < start + q.render.length) :
    start = front.length ∧ q = r := by
  obtain ⟨hq, before, after, htext, rfl⟩ := referenceAt_iff.mp h.referenceAt
  obtain ⟨gap, rfl⟩ :=
    List.prefix_of_prefix_length_le ⟨_, htext.symm⟩ ⟨r.render ++ back, rfl⟩ hstart
  rw [List.append_assoc, List.append_cancel_left_eq] at htext
  rcases Reference.eq_nil_or_eq_append_of_render hq htext.symm with rfl | ⟨more, hmore⟩
  · have hread := Reference.scan?_render_append hr back
    rw [← List.nil_append (r.render ++ back), htext, Reference.scan?_render_append hq] at hread
    exact ⟨by simp, (Prod.mk.inj (Option.some.inj hread)).1⟩
  · have hlength := congrArg List.length htext
    rw [hmore] at hlength
    simp only [List.length_append] at hlength hstop
    have hpos := r.render_length_pos
    omega

/-- A reference that is written in a text begins in a token of the text: in its own one, or in
a string, a formula or plain text. -/
theorem ReferenceAt.exists_tokenAt {t : Text} {start : Nat} {r : Reference}
    (h : ReferenceAt t start r) :
    TokenAt t start (.ofReference r) ∨
      InsideToken t [.string, .formula, .text] start (start + 1) := by
  obtain ⟨hr, front, back, rfl, rfl⟩ := referenceAt_iff.mp h
  obtain ⟨rest, hrest⟩ := r.render_eq_cons
  have hs : Text.isBlank 's' = false := by decide
  obtain ⟨place, token, htoken, hplace, hstop⟩ :=
    exists_tokenAt_of_isBlank_eq_false front (rest ++ back) hs
  rw [← List.cons_append, ← hrest] at htoken
  have hmem : 's' ∈ token.raw := by
    obtain ⟨before, inner, tail, following, c, more, rfl, rfl, hraw, hright, -, -, -⟩ :=
      htoken.exists_first_of_le hplace hstop.le
    cases tail with
    | nil => simp [hraw] at hstop
    | cons d tail =>
      rw [hrest] at hright
      obtain ⟨rfl, -⟩ := List.cons.inj hright
      simp [hraw]
  rcases htoken.shape.kind_of_s_mem hmem with hkind | hkind
  · obtain ⟨q, -, rfl⟩ := htoken.shape.eq_ofReference hkind
    rw [Token.raw_ofReference] at hstop
    obtain ⟨rfl, rfl⟩ := eq_of_ofReference_at hr htoken hplace hstop
    exact .inl htoken
  · exact .inr ⟨place, token, htoken, hkind, hplace, hstop⟩

/-- A reference's token is read exactly where the reference is written and does not begin in a
string, a formula or plain text. -/
theorem tokenAt_ofReference_iff {t : Text} {start : Nat} {r : Reference} :
    TokenAt t start (.ofReference r) ↔ ReferenceAt t start r ∧
      ¬ InsideToken t [.string, .formula, .text] start (start + 1) := by
  constructor
  · intro h
    refine ⟨h.referenceAt, ?_⟩
    rintro ⟨place, other, hother, hkind, hplace, hstop⟩
    have hpos := r.render_length_pos
    rw [← Token.raw_ofReference] at hpos
    obtain ⟨-, rfl⟩ := h.eq_of_overlap hother (by omega) (by omega)
    rcases Token.kind_ofReference r with hr | hr <;> simp [hr] at hkind
  · rintro ⟨h, hnot⟩
    exact h.exists_tokenAt.resolve_right hnot

/-- A reference that begins in plain text follows a character of a word. -/
theorem ReferenceAt.followsWord {t : Text} {start : Nat} {r : Reference}
    (h : ReferenceAt t start r) (htext : InsideToken t [.text] start (start + 1)) :
    FollowsWord t start := by
  obtain ⟨hr, front, back, rfl, rfl⟩ := referenceAt_iff.mp h
  obtain ⟨place, token, htoken, hkind, hplace, hstop⟩ := htext
  obtain ⟨rest, hrest⟩ := r.render_eq_cons
  have hstands : ∀ before, Token.startsWord before = true →
      Token.StandsAt before (r.render ++ back) (.ofReference r) := fun before hword =>
    ⟨.reference r hr, by rcases Token.kind_ofReference r with hr | hr <;> simp [hr],
      fun _ => hword, by simp⟩
  by_contra hword
  rw [hrest, List.cons_append] at htoken hstands
  refine htoken.not_standsAt_of_text (List.mem_singleton.mp hkind) hplace hstop (by decide) _
    (hstands _ ?_)
  rw [Token.startsWord, Bool.not_eq_true', ← Bool.not_eq_true, Option.any_eq_true]
  rintro ⟨c, hc, hcword⟩
  rw [List.getLast?_drop] at hc
  split at hc
  · simp at hc
  · exact hword ⟨c, by rwa [List.take_left], hcword⟩

end Rowscript
