import Rowscript.Proofs.Balance
import Rowscript.Proofs.Formulas

/-!
# Formulas with and without their marker

The marker of formulas may be left out before an output that begins with exactly one equals
sign: both spellings are read or refused together. Without the marker the tokens of the text
decide what it is. One token of plain text names a column. Any other text is the same formula
as with the marker, as long as its tokens show the references that it has.
-/

namespace Rowscript

/-- The marker of formulas stays at the beginning of an instruction that is trimmed. -/
theorem trim_formulaMarker_append (t : Text) :
    Text.trim (formulaMarker ++ t) = formulaMarker ++ Text.trimRight t := by
  have hleft : Text.trimLeft (formulaMarker ++ t) = formulaMarker ++ t :=
    Text.trimLeft_cons (by decide) _
  have hmarker : Text.trimRight formulaMarker = formulaMarker := by decide
  rw [Text.trim, hleft, Text.trimRight_append]
  split
  · next hnil => rw [hnil, hmarker, List.append_nil]
  · rfl

/-- The marker of formulas makes no difference to the brackets. -/
theorem bracketsBalanced_formulaMarker_append (t : Text) :
    Text.bracketsBalanced (Text.trim (formulaMarker ++ t)) =
      Text.bracketsBalanced (Text.trim t) := by
  have hall : formulaMarker.all (fun c => c ≠ '[' && c ≠ ']') = true := by decide
  have hmarker : ∀ c ∈ formulaMarker, c ≠ '[' ∧ c ≠ ']' := fun c hc => by
    simpa using List.all_eq_true.mp hall c hc
  have hrest : Text.bracketsBalanced (formulaMarker ++ t) = Text.bracketsBalanced t :=
    Text.closesBrackets_append hmarker 0 t
  rw [Text.bracketsBalanced_trim, Text.bracketsBalanced_trim, hrest]

/-- Under a header that is no filter's, a rule is read when its brackets are balanced and an
output can be read. -/
theorem readRule_eq_ok_iff_of_output {headers : List Text} {header instruction : Text}
    {i : Instruction} (hheader : Text.after? filterMarker (Text.trim header) = none) :
    readRule headers header instruction = .ok i ↔
      Text.bracketsBalanced (Text.trim instruction) = true ∧
        ∃ o, Output.ReadFrom headers (Text.trim instruction) o ∧
          i = .output ⟨Text.trim header, o⟩ := by
  rw [readRule_eq_ok_iff, readTrimmed, hheader]
  cases Text.bracketsBalanced (Text.trim instruction) with
  | false => simp
  | true =>
    simp only [Bool.not_true, Bool.false_eq_true, if_false, true_and]
    rw [bind_eq_ok_iff]
    refine exists_congr fun o => and_congr readOutput_eq_ok_iff ?_
    simp [pure, Except.pure, eq_comm]

/-- A text that is a formula is unmarked. -/
theorem unmarked_of_startsFormula {t : Text} (hstart : startsFormula t = true) : Unmarked t := by
  obtain ⟨rest, rfl⟩ := List.head?_eq_some_iff.mp (startsFormula_iff.mp hstart).1
  exact ⟨rfl, rfl⟩

/-- An unmarked instruction is read when its references are known. -/
theorem exists_readFrom_iff_of_unmarked {headers : List Text} {raw : Text} (hraw : Unmarked raw) :
    (∃ o, Output.ReadFrom headers raw o) ↔ Known headers raw := by
  constructor
  · rintro ⟨o, h⟩
    rw [← readOutput_eq_ok_iff, readOutput_of_unmarked hraw] at h
    obtain ⟨_, hcheck, _⟩ := bind_eq_ok_iff.mp h
    exact checkReferences_eq_ok_iff.mp hcheck
  · intro hknown
    by_cases htoken : ∃ column written, tokenize raw = [⟨.text, column, written⟩]
    · obtain ⟨column, written, htoken⟩ := htoken
      exact ⟨_, .direct hraw hknown htoken⟩
    · simp only [not_exists] at htoken
      exact ⟨_, .expression hraw hknown htoken⟩

/-- Kinds show whether a single token of plain text has been read. -/
theorem map_kind_eq_text_iff {tokens : List Token} :
    tokens.map Token.kind = [.text] ↔ ∃ column written, tokens = [⟨.text, column, written⟩] := by
  constructor
  · intro h
    obtain ⟨⟨kind, column, written⟩, rfl, rfl⟩ := List.map_eq_singleton_iff.mp h
    exact ⟨column, written, rfl⟩
  · rintro ⟨column, written, rfl⟩
    rfl

/-- An unmarked instruction is read into a direct column if it is a single token of plain
text, and into an expression otherwise. -/
theorem Output.ReadFrom.eq_of_unmarked {headers : List Text} {raw : Text} {o : Output}
    (h : ReadFrom headers raw o) (hraw : Unmarked raw) :
    (∃ column written, tokenize raw = [⟨.text, column, written⟩] ∧ o = .direct column) ∨
      ((tokenize raw).map Token.kind ≠ [.text] ∧
        o = .expression (tokenize raw) raw ((tokenize raw).any Token.hasReference)) := by
  cases h with
  | constant value => simp [Unmarked] at hraw
  | formula _ _ => simp [Unmarked] at hraw
  | direct _ _ htoken => exact .inl ⟨_, _, htoken, rfl⟩
  | expression _ _ htokens =>
    refine .inr ⟨fun hkinds => ?_, rfl⟩
    obtain ⟨column, written, htoken⟩ := map_kind_eq_text_iff.mp hkinds
    exact htokens column written htoken

/-- After the marker a formula is read as it is written, when its references are known. -/
theorem readFrom_formulaMarker_iff {headers : List Text} {t : Text} {o : Output}
    (hstart : startsFormula (Text.trim t) = true) :
    Output.ReadFrom headers (formulaMarker ++ t) o ↔
      Known headers (Text.trim t) ∧ o = .formula (Text.trim t) := by
  have hconstant : Text.after? constantMarker (formulaMarker ++ t) = none := rfl
  rw [← readOutput_eq_ok_iff, readOutput, hconstant, Text.after?_append]
  constructor
  · intro h
    obtain ⟨body, hread, ho⟩ := bind_eq_ok_iff.mp h
    obtain ⟨rfl, -, hknown⟩ := readFormula_eq_ok_iff.mp hread
    exact ⟨hknown, (Except.ok.inj ho).symm⟩
  · rintro ⟨hknown, rfl⟩
    exact bind_eq_ok_iff.mpr ⟨_, readFormula_eq_ok_iff.mpr ⟨rfl, hstart, hknown⟩, rfl⟩

section Spellings

variable {headers : List Text} {header t : Text}

/-- What a formula is read into when it is written behind its marker. -/
theorem readRule_formulaMarker_eq_ok_iff {i : Instruction}
    (hheader : Text.after? filterMarker (Text.trim header) = none)
    (hstart : startsFormula (Text.trim t) = true) :
    readRule headers header (formulaMarker ++ t) = .ok i ↔
      Text.bracketsBalanced (Text.trim t) = true ∧ Known headers (Text.trim t) ∧
        i = .output ⟨Text.trim header, .formula (Text.trim t)⟩ := by
  have htrim : Text.trim (Text.trimRight t) = Text.trim t := Text.trim_trimRight t
  rw [readRule_eq_ok_iff_of_output hheader, bracketsBalanced_formulaMarker_append,
    trim_formulaMarker_append]
  refine and_congr_right fun _ => ?_
  constructor
  · rintro ⟨o, hread, rfl⟩
    rw [readFrom_formulaMarker_iff (htrim.symm ▸ hstart), htrim] at hread
    exact ⟨hread.1, by rw [hread.2]⟩
  · rintro ⟨hknown, rfl⟩
    refine ⟨_, ?_, rfl⟩
    rw [readFrom_formulaMarker_iff (htrim.symm ▸ hstart), htrim]
    exact ⟨hknown, rfl⟩

/-- Both spellings of a formula are read or refused together. -/
theorem exists_readRule_formulaMarker_iff
    (hheader : Text.after? filterMarker (Text.trim header) = none)
    (hstart : startsFormula (Text.trim t) = true) :
    (∃ i, readRule headers header t = .ok i) ↔
      ∃ i, readRule headers header (formulaMarker ++ t) = .ok i := by
  have hbare : (∃ o, Output.ReadFrom headers (Text.trim t) o) ↔ Known headers (Text.trim t) :=
    exists_readFrom_iff_of_unmarked (unmarked_of_startsFormula hstart)
  simp only [readRule_formulaMarker_eq_ok_iff hheader hstart, readRule_eq_ok_iff_of_output hheader]
  constructor
  · rintro ⟨i, hbalanced, o, hread, -⟩
    exact ⟨_, hbalanced, hbare.mp ⟨o, hread⟩, rfl⟩
  · rintro ⟨i, hbalanced, hknown, -⟩
    obtain ⟨o, hread⟩ := hbare.mpr hknown
    exact ⟨_, hbalanced, o, hread, rfl⟩

/-- A text without references is not changed by resolving it. -/
theorem Context.resolve_of_references_eq_nil (ctx : Context) (live : Bool) {t : Text}
    (h : references t = []) : ctx.resolve live t = t := by
  have hpiece : ∀ piece ∈ pieces t, ctx.resolvePiece live piece = piece.render := by
    intro piece hpiece
    cases piece with
    | char c => rfl
    | reference r =>
      have hr : r ∈ references t := mem_references.mpr hpiece
      simp [h] at hr
  have hflat : (pieces t).flatMap (ctx.resolvePiece live) = (pieces t).flatMap Piece.render := by
    rw [List.flatMap_def, List.flatMap_def, List.map_congr_left hpiece]
  rw [Context.resolve_eq_flatMap, hflat, flatMap_render_pieces]

/-- A trimmed text that is one token of plain text is the column that it names. -/
theorem column_of_tokenize {t column written : Text} (htrimmed : Text.trim t = t)
    (h : tokenize t = [⟨.text, column, written⟩]) : column = t := by
  obtain ⟨l, hl, htoken⟩ := List.map_eq_singleton_iff.mp h
  have hmem : l ∈ lexemes t := by simp [hl]
  have hkind : l.token.kind = .text := by rw [htoken]
  have hplain := (shape_of_mem_lexemes hmem).eq_text hkind
  rw [raw_of_lexemes_eq_singleton htrimmed hl, htoken] at hplain
  exact congrArg Token.value hplain

/-- An expression that is a formula is resolved as one, if its tokens show that it has
references or it has none. -/
theorem Output.resolve_expression_of_startsFormula {σ ε : Type} (sandbox : Sandbox σ ε)
    (ctx : Context) (tokens : List Token) {raw : Text} {hasReference : Bool}
    (hstart : startsFormula raw = true) (hshown : hasReference = true ∨ references raw = []) :
    (Output.expression tokens raw hasReference).resolve sandbox ctx =
      resolveFormula sandbox ctx raw := by
  rw [Output.resolve_expression, if_pos (startsFormula_iff.mp hstart).1]
  cases hasReference with
  | true => rfl
  | false =>
    have hnone : references raw = [] := by simpa using hshown
    simp [resolveFormula_eq, evaluateFormula_eq, Context.resolve_of_references_eq_nil _ _ hnone]

/-- The marker of formulas may be left out before an output whose text begins with exactly one
equals sign. Both spellings are accepted or refused together. If both are accepted, the one with
the marker is the formula as it is written, trimmed; and so is the one without, unless its
tokens hide the references that it has, or it is one token of plain text: then it is a direct
column, whose value is that of the source column with this name. -/
theorem resolve_formulaMarker {σ ε : Type} (headers : List Text) (header t : Text)
    (hheader : Text.after? filterMarker (Text.trim header) = none)
    (hstart : startsFormula (Text.trim t) = true) (sandbox : Sandbox σ ε) (ctx : Context) :
    ((∃ i, readRule headers header t = .ok i) ↔
        ∃ i, readRule headers header (formulaMarker ++ t) = .ok i) ∧
      ∀ bare marked, readRule headers header t = .ok bare →
        readRule headers header (formulaMarker ++ t) = .ok marked →
        marked.resolve sandbox ctx = resolveFormula sandbox ctx (Text.trim t) ∧
        (((tokenize (Text.trim t)).any Token.hasReference = true ∨
            references (Text.trim t) = []) →
          (tokenize (Text.trim t)).map Token.kind ≠ [.text] →
          bare.resolve sandbox ctx = marked.resolve sandbox ctx) ∧
        ((tokenize (Text.trim t)).map Token.kind = [.text] →
          bare.resolve sandbox ctx = pure (.same (ctx.value ⟨.source, Text.trim t⟩))) := by
  refine ⟨exists_readRule_formulaMarker_iff hheader hstart, fun bare marked hbare hmarked => ?_⟩
  obtain ⟨-, -, rfl⟩ := (readRule_formulaMarker_eq_ok_iff hheader hstart).mp hmarked
  obtain ⟨-, o, hread, rfl⟩ := (readRule_eq_ok_iff_of_output hheader).mp hbare
  have hcases := hread.eq_of_unmarked (unmarked_of_startsFormula hstart)
  refine ⟨rfl, ?_, ?_⟩
  · intro hshown hkinds
    rcases hcases with ⟨column, written, htoken, -⟩ | ⟨-, rfl⟩
    · exact absurd (map_kind_eq_text_iff.mpr ⟨column, written, htoken⟩) hkinds
    · exact Output.resolve_expression_of_startsFormula sandbox ctx (tokenize (Text.trim t)) hstart
        hshown
  · intro hkinds
    rcases hcases with ⟨column, written, htoken, rfl⟩ | ⟨hne, -⟩
    · rw [← column_of_tokenize (Text.trim_trim t) htoken]
      rfl
    · exact absurd hkinds hne

/-- A formula with a reference is the same in both spellings. -/
theorem resolve_formulaMarker_reference :
    ∃ bare marked, readRule ["A".toList] "Total".toList " =src[A]*2".toList = .ok bare ∧
      readRule ["A".toList] "Total".toList (formulaMarker ++ " =src[A]*2".toList) = .ok marked ∧
      bare ≠ marked ∧
      bare.resolve (fun f => pure (.text f) : Sandbox Unit Unit)
          ⟨[("A".toList, .text "7".toList)], [], [], .display⟩ =
        marked.resolve (fun f => pure (.text f))
          ⟨[("A".toList, .text "7".toList)], [], [], .display⟩ := by
  have hbare : readRule ["A".toList] "Total".toList " =src[A]*2".toList =
      .ok (.output ⟨"Total".toList,
        .expression (tokenize "=src[A]*2".toList) "=src[A]*2".toList true⟩) := by
    decide +kernel
  have hmarked : readRule ["A".toList] "Total".toList (formulaMarker ++ " =src[A]*2".toList) =
      .ok (.output ⟨"Total".toList, .formula "=src[A]*2".toList⟩) := by
    decide +kernel
  have hboth := (resolve_formulaMarker ["A".toList] "Total".toList " =src[A]*2".toList
    (by decide) (by decide) (fun f => pure (.text f) : Sandbox Unit Unit)
    ⟨[("A".toList, .text "7".toList)], [], [], .display⟩).2 _ _ hbare hmarked
  exact ⟨_, _, hbare, hmarked, by simp, hboth.2.1 (by decide +kernel) (by decide +kernel)⟩

/-- Behind an equals sign with a space no formula is read: without its marker the text names a
column, which is empty in a row without it, and with its marker it is submitted. -/
theorem resolve_formulaMarker_spaced :
    startsFormula (Text.trim "= A1 + B1".toList) = true ∧
      Text.after? filterMarker (Text.trim "Total".toList) = none ∧
      ∃ bare marked, readRule [] "Total".toList "= A1 + B1".toList = .ok bare ∧
        readRule [] "Total".toList (formulaMarker ++ "= A1 + B1".toList) = .ok marked ∧
        outcome (bare.resolve (fun f => pure (.text f) : Sandbox Unit Unit)
          ⟨[], [], [], .display⟩) () = (.ok (.same (.text [])), ()) ∧
        outcome (marked.resolve (fun f => pure (.text f) : Sandbox Unit Unit)
          ⟨[], [], [], .display⟩) () = (.ok (.same (.text "= A1 + B1".toList)), ()) := by
  refine ⟨by decide, by decide, .output ⟨"Total".toList, .direct "= A1 + B1".toList⟩,
    .output ⟨"Total".toList, .formula "= A1 + B1".toList⟩, ?_, ?_, ?_, ?_⟩
  · decide +kernel
  · decide +kernel
  · rfl
  · decide +kernel

end Spellings

end Rowscript
