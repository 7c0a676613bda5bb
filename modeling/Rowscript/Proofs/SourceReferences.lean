import Rowscript.Proofs.Balance
import Rowscript.Proofs.Templates

/-!
# Source references of rules that are read

A rule that is read has balanced brackets, and its source references name columns of the source
table. Neither check sees all of a reference: brackets are counted wherever they stand, and a
reference is looked for up to its first bracket. Together they leave one gap only. Where the
keyword of a source reference is written, a column of the source table is named, or another
bracket is opened before one is closed, and what stands there is text.
-/

namespace Rowscript

namespace Known

variable {headers : List Text} {t : Text}

/-- Text without an `s` adds no unknown reference before a text. -/
theorem append_left {s : Text} (hs : 's' ∉ s) (h : Known headers t) : Known headers (s ++ t) := by
  intro r hr
  obtain ⟨hwell, hinfix⟩ := mem_references_iff.mp hr
  exact h r (mem_references_iff.mpr ⟨hwell, Reference.render_isInfix_right hs hinfix⟩)

/-- Text without a closing bracket adds no unknown reference behind a text. -/
theorem append_right {s : Text} (hs : ']' ∉ s) (h : Known headers t) : Known headers (t ++ s) := by
  intro r hr
  obtain ⟨hwell, hinfix⟩ := mem_references_iff.mp hr
  exact h r (mem_references_iff.mpr ⟨hwell, Reference.render_isInfix_left hs hinfix⟩)

/-- Blanks around a text add no unknown reference. -/
theorem of_trim (h : Known headers (Text.trim t)) : Known headers t := by
  obtain ⟨before, after, hbefore, hafter, hsplit⟩ := Text.exists_append_trim_append t
  rw [hsplit]
  exact (h.append_right (Text.not_mem_of_forall (by decide) hafter)).append_left
    (Text.not_mem_of_forall (by decide) hbefore)

end Known

/-- An output that is read has known references, unless it is a fixed text. -/
theorem known_of_readOutput {headers : List Text} {raw : Text} {o : Output}
    (h : readOutput headers raw = .ok o) (ho : ∀ value, o ≠ .constant value) :
    Known headers raw := by
  cases readOutput_eq_ok_iff.mp h with
  | constant value => exact absurd rfl (ho _)
  | formula _ hknown => exact hknown.of_trim.append_left (by decide)
  | direct _ hknown _ => exact hknown
  | expression _ hknown _ => exact hknown

/-- A filter that is read has known references, also where it is a note. -/
theorem known_of_readFilter {headers : List Text} {name raw : Text} {rule : FilterRule}
    (h : readFilter headers name raw = .ok rule) : Known headers raw := by
  have hbody : Known headers (((Text.after? evalMarker raw).map Text.trim).getD raw) := by
    unfold readFilter at h
    dsimp only at h
    split at h
    · next t hformula =>
      obtain ⟨template, hread, -⟩ := bind_eq_ok_iff.mp h
      obtain ⟨rfl, -, hknown⟩ := readFormula_eq_ok_iff.mp hread
      rw [Text.after?_eq_some_iff.mp hformula]
      exact hknown.of_trim.append_left (by decide)
    · obtain ⟨_, hcheck, -⟩ := bind_eq_ok_iff.mp h
      exact checkReferences_eq_ok_iff.mp hcheck
  cases heval : Text.after? evalMarker raw with
  | none => simpa [heval] using hbody
  | some text =>
    rw [heval] at hbody
    rw [Text.after?_eq_some_iff.mp heval]
    exact hbody.of_trim.append_left (by decide)

/-- A rule that is read has known references, unless it is a fixed text. -/
theorem known_of_readRule {headers : List Text} {header instruction : Text} {i : Instruction}
    (h : readRule headers header instruction = .ok i)
    (hi : ∀ header value, i ≠ .output ⟨header, .constant value⟩) : Known headers instruction := by
  refine Known.of_trim ?_
  rcases (exists_read_of_readRule h).2 with ⟨o, rfl, hread⟩ | ⟨name, rule, rfl, hread⟩
  · exact known_of_readOutput hread fun value ho => hi _ value (by rw [ho])
  · exact known_of_readFilter hread

/-- In a text with balanced brackets another bracket follows where one is opened. -/
theorem Text.firstBracket?_of_bracketsBalanced {before after : Text}
    (h : bracketsBalanced (before ++ '[' :: after) = true) :
    after.firstBracket? = some ']' ∨ after.firstBracket? = some '[' := by
  have hclose := close_mem_of_closesBrackets_append h
  cases hfirst : after.firstBracket? with
  | none =>
    exact absurd (List.find?_eq_none.mp hfirst _ hclose) (by decide)
  | some bracket =>
    have hbracket := (firstBracket?_eq_some_iff.mp hfirst).1
    simp only [Reference.isColumnChar, Bool.and_eq_false_iff, decide_eq_false_iff_not,
      not_not] at hbracket
    rcases hbracket with rfl | rfl
    · exact .inr rfl
    · exact .inl rfl

/-- Wherever the keyword of a source reference is written in a rule that is read, in quotes or not
and also where the rule is a note, the first bracket behind it closes it and a column of the source
table is named, or it opens another one and no reference is found there. Only fixed texts may hold
other source references. -/
theorem source_reference_of_readRule {headers : List Text}
    {header instruction before after : Text} {i : Instruction}
    (h : readRule headers header instruction = .ok i)
    (hi : ∀ header value, i ≠ .output ⟨header, .constant value⟩)
    (htext : instruction = before ++ ("src[".toList ++ after)) :
    (after.firstBracket? = some ']' ∧
        ∃ column ∈ headers, ReferenceAt instruction before.length ⟨.source, column⟩) ∨
      (after.firstBracket? = some '[' ∧ ∀ r, ¬ ReferenceAt instruction before.length r) := by
  have hbalanced : Text.bracketsBalanced ((before ++ "src".toList) ++ '[' :: after) = true := by
    have htrimmed := (exists_read_of_readRule h).1
    rw [Text.bracketsBalanced_trim, htext] at htrimmed
    rwa [List.append_assoc]
  rcases Text.firstBracket?_of_bracketsBalanced hbalanced with hclose | hopen
  · obtain ⟨column, rest, hwell, hrender⟩ := Reference.exists_render_append .source hclose
    have hfound : ReferenceAt instruction before.length ⟨.source, column⟩ :=
      referenceAt_iff.mpr ⟨hwell, before, rest, htext.trans (congrArg (before ++ ·) hrender), rfl⟩
    exact .inl ⟨hclose, column, known_of_readRule h hi _ hfound.mem_references rfl, hfound⟩
  · refine .inr ⟨hopen, fun r hfound => ?_⟩
    obtain ⟨hwell, front, back, hwritten, hlength⟩ := referenceAt_iff.mp hfound
    obtain ⟨rfl, hrender⟩ := List.append_inj (htext.symm.trans hwritten) hlength.symm
    have horigin : r.origin = .source := Reference.origin_eq_of_render hrender
    have hclose : after.firstBracket? = some ']' :=
      Reference.firstBracket?_of_render hwell (by rw [horigin]; exact hrender)
    rw [hopen] at hclose
    exact absurd hclose (by decide)

/-- A column is named where the first bracket closes the keyword, and no reference is found where
it opens another one. -/
theorem source_reference_of_readRule_formulas :
    (∃ column ∈ ["A".toList],
        ReferenceAt "formula:=src[A]*2".toList "formula:=".toList.length ⟨.source, column⟩) ∧
      ∀ r, ¬ ReferenceAt "formula:=src[a[b]]".toList "formula:=".toList.length r := by
  have hone : readRule ["A".toList] "Total".toList "formula:=src[A]*2".toList =
      .ok (.output ⟨"Total".toList, .formula "=src[A]*2".toList⟩) := by decide +kernel
  have htwo : readRule ["A".toList] "Total".toList "formula:=src[a[b]]".toList =
      .ok (.output ⟨"Total".toList, .formula "=src[a[b]]".toList⟩) := by decide +kernel
  have hplain : "formula:=src[A]*2".toList =
      "formula:=".toList ++ ("src[".toList ++ "A]*2".toList) := rfl
  have hnested : "formula:=src[a[b]]".toList =
      "formula:=".toList ++ ("src[".toList ++ "a[b]]".toList) := rfl
  constructor
  · rcases source_reference_of_readRule hone (by simp) hplain with ⟨-, hfound⟩ | ⟨hopen, -⟩
    · exact hfound
    · exact absurd hopen (by decide)
  · rcases source_reference_of_readRule htwo (by simp) hnested with ⟨hclose, -⟩ | ⟨-, hnone⟩
    · exact absurd hclose (by decide)
    · exact hnone

/-- A rule is read whose keyword of a source reference is followed by no column of the source table
and a closing bracket, as its brackets are balanced and nothing in it is a reference. -/
theorem readRule_nested_brackets :
    readRule ["A".toList] "Total".toList "formula:=src[a[b]]".toList =
        .ok (.output ⟨"Total".toList, .formula "=src[a[b]]".toList⟩) ∧
      '"' ∉ "formula:=src[a[b]]".toList ∧
      "formula:=src[a[b]]".toList = "formula:=".toList ++ ("src[".toList ++ "a[b]]".toList) ∧
      ∀ column ∈ ["A".toList], ∀ rest, "a[b]]".toList ≠ column ++ ']' :: rest := by
  refine ⟨by decide +kernel, by decide, rfl, fun column hcolumn rest => ?_⟩
  rw [List.mem_singleton.mp hcolumn]
  simp

end Rowscript
