import Rowscript.Proofs.Failures
import Rowscript.Proofs.Lookups
import Rowscript.Proofs.MappingRows
import Rowscript.Proofs.MarkedFormulas
import Rowscript.Proofs.SelfReferences
import Rowscript.Proofs.WordBoundaries
import Rowscript.Proofs.WrittenFilters

/-!
# Bare column names

An output column whose instruction is the name of a source column by itself shows the value of
that column, if the whole name is one token of plain text. A name without brackets, quotes,
operators and bars is one, unless a number begins in it: a digit that does not follow a character
of a word. Then the name has several tokens or is a number, and it is shown itself.
-/

namespace Rowscript

/-- A trimmed text is one token of plain text exactly if no other token stands at a character of
it that is no blank. -/
theorem tokenize_eq_text_iff {t : Text} (hne : t ≠ []) (htrim : Text.trim t = t) :
    tokenize t = [.plain .text t] ↔
      ∀ left c right, t = left ++ c :: right → Text.isBlank c = false →
        ∀ token, ¬ Token.StandsAt left.getLast? (c :: right) token := by
  constructor
  · rintro h left c right rfl hc
    obtain ⟨start, htoken⟩ := TokenAt.exists_of_mem_tokenize (h ▸ List.mem_singleton_self _)
    obtain ⟨before, d, rest, ht, rfl, -, hfirst⟩ := htoken.exists_first
    -- The token is as long as the text, and so it begins where the text begins.
    have hle := (Token.shape_first d rest).2.length_le
    have hlength := congrArg List.length ht
    rw [← hfirst] at hle
    simp only [Token.plain, List.length_append] at hle hlength
    have hstart : before.length = 0 := by omega
    have hstop : left.length <
        before.length + (Token.plain .text (left ++ c :: right)).raw.length := by
      simp only [Token.plain, List.length_append, List.length_cons]
      omega
    intro other
    have hnot := htoken.not_standsAt_of_text rfl (by omega) hstop hc other
    rwa [hstart, List.drop_zero] at hnot
  · intro h
    obtain ⟨c, rest, rfl⟩ := List.exists_cons_of_ne_nil hne
    have hc : Text.isBlank c = false := Text.isBlank_eq_false_of_trim htrim
    have hleft : Text.trimLeft (c :: rest) = c :: rest := Text.trimLeft_cons hc rest
    have hnone : Token.scan? none (c :: rest) = none :=
      Token.scan?_eq_none_iff.mpr (h [] c rest rfl hc)
    -- The span of plain text would end in front of a token.
    have hspan : Token.plainTail c rest = rest := by
      obtain ⟨remaining, hremaining⟩ := Token.plainTail_isPrefix c rest
      cases remaining with
      | nil => rwa [List.append_nil] at hremaining
      | cons d remaining =>
        obtain ⟨hd, hsome⟩ := Token.stop_of_plainTail hremaining.symm
        obtain ⟨token, htoken⟩ := Option.isSome_iff_exists.mp hsome
        refine absurd (Token.standsAt_of_scan? htoken) (h _ d remaining ?_ hd token)
        rw [List.cons_append, hremaining]
    have hright : Text.trimRight (c :: rest) = c :: rest := by
      conv_lhs => rw [← htrim]
      rw [Text.trimRight_trim, htrim]
    have hfirst : Token.first c rest = .plain .text (c :: rest) := by
      rw [Token.first, hnone, hspan, hright, Option.getD_none]
    rw [tokenize, lexemes_of_trimLeft_eq_cons hleft, hfirst, Token.plain, List.drop_length,
      lexemes_of_trimLeft_eq_nil rfl]
    rfl

/-- The characters that references, strings, operators, formulas and marks between alternatives
are written with. -/
def markChars : Text := "[]\"=!<>|".toList

/-- A name that can stand by itself: it is trimmed, holds none of the characters that other
tokens than numbers are written with, and begins with no marker. -/
structure BareName (name : Text) : Prop where
  ne_nil : name ≠ []
  trim_eq : Text.trim name = name
  plain : ∀ c ∈ name, c ∉ markChars
  unmarked : Unmarked name

/-- A bare name has no brackets. -/
theorem BareName.ne_bracket {name : Text} (h : BareName name) : ∀ c ∈ name, c ≠ '[' ∧ c ≠ ']' := by
  intro c hc
  constructor
  all_goals
    rintro rfl
    exact h.plain _ hc (by decide)

/-- A number begins in a text: a digit of it does not follow a character of a word. -/
def HoldsNumber (t : Text) : Prop :=
  ∃ left d right, t = left ++ d :: right ∧ Text.isDigit d = true ∧
    Token.startsWord left.getLast? = true

/-- Other tokens than numbers and plain text are written with certain characters. -/
theorem Token.Shape.exists_mem_markChars {token : Token} (h : token.Shape)
    (hkind : token.kind ∉ [TokenKind.number, .text]) : ∃ c ∈ token.raw, c ∈ markChars := by
  cases h with
  | reference r _ => exact ⟨']', by simp [Reference.render], by decide⟩
  | operator op => cases op <;> exact ⟨_, List.mem_cons_self, by decide⟩
  | formula => exact ⟨'=', by simp [plain], by decide⟩
  | string => exact ⟨'"', by simp, by decide⟩
  | or => exact ⟨'|', by decide, by decide⟩
  | _ => simp [plain] at hkind

/-- Where the characters of other tokens are missing, a token stands where a number begins. -/
theorem Token.StandsAt.exists_digit {before : Option Char} {t : Text} {token : Token}
    (h : StandsAt before t token) (hplain : ∀ c ∈ t, c ∉ markChars) :
    ∃ d rest, t = d :: rest ∧ Text.isDigit d = true ∧ startsWord before = true := by
  obtain ⟨hshape, htext, hword, rest, rfl⟩ := h
  have hnumber : token.kind = .number := by
    by_contra hnot
    obtain ⟨c, hc, hmark⟩ := hshape.exists_mem_markChars (by simp [hnot, htext])
    exact hplain c (List.mem_append_left _ hc) hmark
  obtain ⟨d, tail, hraw, hd⟩ := hshape.exists_raw_eq_cons (by simp [hnumber])
  refine ⟨d, tail ++ rest, by rw [hraw]; rfl, ?_, hword (by simp [hnumber, TokenKind.beginsWord])⟩
  simpa [hnumber] using hd

/-- A bare name is one token of plain text exactly if no number begins in it. -/
theorem BareName.tokenize_eq_iff {name : Text} (h : BareName name) :
    tokenize name = [.plain .text name] ↔ ¬ HoldsNumber name := by
  rw [tokenize_eq_text_iff h.ne_nil h.trim_eq]
  constructor
  · rintro hnone ⟨left, d, right, rfl, hd, hstart⟩
    obtain ⟨token, htoken⟩ := Option.isSome_iff_exists.mp (Token.isSome_number? hd right)
    refine hnone left d right rfl (Text.isBlank_of_isDigit hd) token ?_
    obtain ⟨hshape, hwritten⟩ := Token.shape_of_number? htoken
    have hkind := Token.kind_of_number? htoken
    exact ⟨hshape, by simp [hkind], fun _ => hstart, hwritten⟩
  · rintro hnumber left c right rfl - token hstands
    obtain ⟨d, rest, hsplit, hd, hstart⟩ := hstands.exists_digit fun e he =>
      h.plain e (List.mem_append_right _ he)
    obtain ⟨rfl, rfl⟩ := List.cons.inj hsplit
    exact hnumber ⟨left, c, right, rfl, hd, hstart⟩

/-- A trimmed text that has a single token of plain text is this token. -/
theorem tokenize_eq_text_of_eq {t column written : Text} (htrim : Text.trim t = t)
    (h : tokenize t = [⟨.text, column, written⟩]) : tokenize t = [.plain .text t] := by
  obtain ⟨l, hl, htoken⟩ := List.map_eq_singleton_iff.mp h
  have hmem : l ∈ lexemes t := hl ▸ List.mem_singleton_self l
  have hplain := (shape_of_mem_lexemes hmem).eq_text (by rw [htoken])
  rw [raw_of_lexemes_eq_singleton htrim hl] at hplain
  rw [tokenize, hl, List.map_singleton, hplain]

section Classification

variable {header name : Text}

/-- A bare name is an instruction that can be read: a direct column if no number begins in it,
and otherwise an expression of its tokens. -/
theorem BareName.exists_readRule (h : BareName name) (headers : List Text)
    (hheader : Text.after? filterMarker (Text.trim header) = none) :
    ∃ o, readRule headers header name = .ok (.output ⟨Text.trim header, o⟩) ∧
      (HoldsNumber name ∧
          o = .expression (tokenize name) name ((tokenize name).any Token.hasReference) ∨
        ¬ HoldsNumber name ∧ o = .direct name) := by
  have hread : ∀ o, Output.ReadFrom headers name o →
      readRule headers header name = .ok (.output ⟨Text.trim header, o⟩) := fun o ho =>
    (readRule_eq_ok_iff_of_output hheader).mpr
      ⟨by rw [h.trim_eq, Text.bracketsBalanced_of_no_bracket h.ne_bracket], o,
        h.trim_eq.symm ▸ ho, rfl⟩
  have hknown : Known headers name := known_of_no_bracket h.ne_bracket
  by_cases hnumber : HoldsNumber name
  · refine ⟨_, hread _ (.expression h.unmarked hknown fun column written htoken => ?_),
      .inl ⟨hnumber, rfl⟩⟩
    exact h.tokenize_eq_iff.mp (tokenize_eq_text_of_eq h.trim_eq htoken) hnumber
  · exact ⟨_, hread _ (.direct h.unmarked hknown (h.tokenize_eq_iff.mpr hnumber)),
      .inr ⟨hnumber, rfl⟩⟩

end Classification

section Rows

variable {σ ε : Type} {sandbox : Sandbox σ ε}

/-- The value of a column in a row of a table that is brought to the length of the header. Of
columns with the same header the last one counts. -/
def Source.HasValue (source : Source) (row : List Text) (column value : Text) : Prop :=
  ∃ i, LastAt column source.headers i ∧ (source.fit row)[i]? = some value

/-- A column of a table has a value in every row, and references to the column stand for it. -/
theorem Source.exists_hasValue {source : Source} {column : Text} (hcolumn : column ∈ source.headers)
    (row : List Text) :
    ∃ value, source.HasValue row column value ∧ ∀ rules outputRow,
      (rowContext source rules row outputRow).value ⟨.source, column⟩ = .text value := by
  obtain ⟨i, hlast⟩ := exists_lastAt hcolumn
  obtain ⟨hlength, -⟩ := List.getElem?_eq_some_iff.mp hlast.1
  obtain ⟨value, hvalue⟩ : ∃ value, (source.fit row)[i]? = some value :=
    ⟨_, List.getElem?_eq_getElem (by rwa [source.length_fit])⟩
  refine ⟨value, ⟨i, hlast, hvalue⟩, fun rules outputRow => ?_⟩
  have hbindings : (rowContext source rules row outputRow).source =
      ((source.headers.zip (source.fit row)).map (Prod.map id Cell.text)).reverse :=
    List.map_reverse
  have hnames : ((source.headers.zip (source.fit row)).map (Prod.map id Cell.text)).map Prod.fst =
      source.headers := by
    rw [List.map_map]
    exact List.map_fst_zip (source.length_fit row).ge
  have hlookup : (rowContext source rules row outputRow).value? ⟨.source, column⟩ =
      some (.text value) := by
    have hentry : (source.headers.zip (source.fit row))[i]? = some (column, value) :=
      List.getElem?_zip_eq_some.mpr ⟨hlast.1, hvalue⟩
    rw [Context.value?, hbindings, lookup_reverse_eq_some_iff, hnames]
    exact ⟨i, by simp [hentry], hlast⟩
  rw [Context.value, hlookup, Option.getD_some]

/-- What a column with a bare name as its instruction shows of a row: the value of the source
column with the name, or the name if a number begins in it. -/
def ShowsName (source : Source) (name : Text) (row : List Text) (value : Text) : Prop :=
  HoldsNumber name ∧ value = name ∨ ¬ HoldsNumber name ∧ source.HasValue row name value

/-- What a bare name is read into gives the text that is shown in every row. -/
theorem BareName.exists_resolve {name : Text} (h : BareName name) {source : Source}
    (hcolumn : name ∈ source.headers) {o : Output} (sandbox : Sandbox σ ε)
    (ho : HoldsNumber name ∧
        o = .expression (tokenize name) name ((tokenize name).any Token.hasReference) ∨
      ¬ HoldsNumber name ∧ o = .direct name) (row : List Text) :
    ∃ value, ShowsName source name row value ∧
      ∀ rules outputRow earlier,
        o.resolve sandbox ((rowContext source rules row outputRow).after earlier) =
          pure (.same (.text value)) := by
  rcases ho with ⟨hnumber, rfl⟩ | ⟨hnumber, rfl⟩
  · refine ⟨name, .inl ⟨hnumber, rfl⟩, fun rules outputRow earlier => ?_⟩
    have hhead : name.head? ≠ some '=' := fun hequals =>
      h.plain '=' (List.mem_of_head? hequals) (by decide)
    rw [Output.resolve_expression, if_neg hhead, Context.resolve_of_references_eq_nil _ _
      (references_eq_nil_of_no_bracket h.ne_bracket)]
  · obtain ⟨value, hvalue, hreference⟩ := Source.exists_hasValue hcolumn row
    refine ⟨value, .inr ⟨hnumber, hvalue⟩, fun rules outputRow earlier => ?_⟩
    rw [Output.resolve, Context.after_eq]
    exact congrArg (fun value => pure (Resolved.same value)) (hreference rules outputRow)

/-- A column whose rule gives a text in every context that it can be computed in has this text in
its cell. -/
theorem ComputedFrom.getElem?_cells {ctx : Context} {outputs : List OutputRule}
    {columns : List ComputedColumn} (h : ComputedFrom sandbox ctx outputs columns) {j : Nat}
    {rule : OutputRule} (hrule : outputs[j]? = some rule) {value : Text}
    (hresolve : ∀ earlier, rule.output.resolve sandbox (ctx.after earlier) =
      pure (.same (.text value))) : (columns.map ComputedColumn.cell)[j]? = some value := by
  rw [← h.rule_eq, List.getElem?_map, Option.map_eq_some_iff] at hrule
  obtain ⟨column, hcolumn, rfl⟩ := hrule
  obtain ⟨s, s', hresolved⟩ := h.resolve_eq column (List.mem_of_getElem? hcolumn)
  rw [h.context_eq j column hcolumn, hresolve, outcome_pure] at hresolved
  have hsame : Resolved.same (.text value) = column.resolved :=
    Except.ok.inj (Prod.mk.inj hresolved).1
  rw [List.getElem?_map, hcolumn, Option.map_some, ComputedColumn.cell, ← hsame]
  rfl

/-- A transformation that succeeds has loaded its mapping, and its result is read off a
history. -/
theorem exists_history_of_transform {source : Source} {mapping : List (Text × Text)} {s s' : σ}
    {transformed : Transformed}
    (h : outcome (transform sandbox source mapping) s = (.ok transformed, s')) :
    ∃ rules history, RuleSet.load source.headers mapping = .ok rules ∧
      transformed = rules.summary history ∧
      ProcessedFrom sandbox source rules 0 source.rows history := by
  cases hload : RuleSet.load source.headers mapping with
  | error e =>
    rw [outcome_transform_of_load_eq_error hload] at h
    simp at h
  | ok rules =>
    rw [transform_of_load hload, outcome_adapt_eq_ok_iff, RuleSet.run_eq_map, ← bind_pure_comp,
      outcome_bind_eq_ok_iff] at h
    obtain ⟨history, t, hhistory, hsummary⟩ := h
    have hsatisfies : Satisfies _ (ProcessedFrom sandbox source rules 0 source.rows) _ _ :=
      satisfies_processHistory source rules 0 source.rows
    have hprocessed := hsatisfies s trivial
    rw [hhistory] at hprocessed
    exact ⟨rules, history, rfl, (Except.ok.inj (Prod.mk.inj hsummary).1).symm, hprocessed.2⟩

/-- The rules that a mapping is loaded into have an output for each of its columns. -/
theorem exists_output_of_load {headers : List Text} {mapping : List (Text × Text)}
    {rules : RuleSet} (hload : RuleSet.load headers mapping = .ok rules) {j : Nat}
    {header instruction : Text}
    (hrow : (mapping.filter isColumnRow)[j]? = some (header, instruction)) :
    ∃ rule, rules.outputs[j]? = some rule ∧
      readRule headers header instruction = .ok (.output rule) := by
  have hcolumns := (RuleSet.load_eq_ok_iff_rows.mp hload).1
  obtain ⟨hj, hget⟩ := List.getElem?_eq_some_iff.mp hrow
  have hj' := hcolumns.length_eq ▸ hj
  have hread := hcolumns.get hj hj'
  rw [List.get_eq_getElem, hget] at hread
  exact ⟨_, List.getElem?_eq_getElem hj', hread⟩

/-- The header of a column is no filter's. -/
theorem after?_filterMarker_of_isColumnRow {header instruction : Text}
    (h : isColumnRow (header, instruction) = true) :
    Text.after? filterMarker (Text.trim header) = none := by
  simp only [isColumnRow, Bool.and_eq_true, Bool.not_eq_true', Text.startsWith] at h
  simpa using h.2

/-- The cells that a history gives a column with a bare name, in the rows that are kept. -/
theorem BareName.cells_of_history {name : Text} (h : BareName name) {source : Source}
    (hcolumn : name ∈ source.headers) {mapping : List (Text × Text)} {rules : RuleSet}
    (hload : RuleSet.load source.headers mapping = .ok rules) {j : Nat} {header : Text}
    (hrow : (mapping.filter isColumnRow)[j]? = some (header, name)) {history : List ProcessedRow}
    (hhistory : ProcessedFrom sandbox source rules 0 source.rows history) :
    ∃ kept, kept.Sublist source.rows ∧
      List.Forall₂ (fun row cells => ∃ value, cells[j]? = some value ∧
        ShowsName source name row value) kept (rules.summary history).rows := by
  have hheader := after?_filterMarker_of_isColumnRow
    (List.mem_filter.mp (List.mem_of_getElem? hrow)).2
  obtain ⟨rule, hrule, hread⟩ := exists_output_of_load hload hrow
  obtain ⟨o, hbare, ho⟩ := h.exists_readRule source.headers hheader
  obtain rfl : rule = ⟨Text.trim header, o⟩ :=
    Instruction.output.inj (Except.ok.inj (hread.symm.trans hbare))
  refine ⟨(keptRows history).map ProcessedRow.source, ?_, ?_⟩
  · rw [← hhistory.source_eq]
    exact List.filter_sublist.map _
  · rw [RuleSet.summary, List.forall₂_map_left_iff, List.forall₂_map_right_iff,
      List.forall₂_same]
    intro row hkept
    obtain ⟨k, hk⟩ := List.mem_iff_getElem?.mp hkept
    obtain ⟨value, hvalue, hresolve⟩ :=
      h.exists_resolve hcolumn sandbox ho row.source
    refine ⟨value, (hhistory.columns_of_kept hk).getElem?_cells hrule fun earlier => ?_, hvalue⟩
    rw [hhistory.context_eq k row hk]
    exact hresolve _ _ earlier

/-- Where a single column gives a text in every row and nothing is filtered, every row has this
text in the output. -/
theorem exists_processRows_of_texts {source : Source} (rule : OutputRule)
    {shows : List Text → Text → Prop}
    (hresolve : ∀ row, ∃ value, shows row value ∧ ∀ rules outputRow,
      rule.output.resolve sandbox (rowContext source rules row outputRow) =
        pure (.same (.text value)))
    (kept : Nat) (rows : List (List Text)) (s : σ) :
    ∃ cells, outcome (processRows sandbox source ⟨[rule], []⟩ kept rows) s = (.ok cells, s) ∧
      List.Forall₂ (fun row cells => ∃ value, cells = [value] ∧ shows row value) rows cells := by
  induction rows generalizing kept with
  | nil => exact ⟨[], rfl, .nil⟩
  | cons row rest ih =>
    obtain ⟨value, hvalue, hresolved⟩ := hresolve row
    obtain ⟨cells, hcells, hshows⟩ := ih (kept + 1)
    have hrow : evaluateRow sandbox ⟨[rule], []⟩
        (rowContext source ⟨[rule], []⟩ row (firstDataRow + kept)) = pure (some [value]) := by
      simp only [evaluateRow, evaluateOutputs, hresolved, passesAll, pure_bind]
      rfl
    refine ⟨[value] :: cells, ?_, .cons ⟨value, rfl, hvalue⟩ hshows⟩
    rw [processRows_cons, hrow, pure_bind]
    exact outcome_bind_eq_ok_iff.mpr ⟨cells, s, hcells, rfl⟩

/-- A mapping of one column with a bare name can always be run, and it keeps every row. -/
theorem BareName.exists_transform {name : Text} (h : BareName name) {source : Source}
    (hcolumn : name ∈ source.headers) {header : Text} (hheader : isColumnRow (header, name) = true)
    (sandbox : Sandbox σ ε) (s : σ) :
    ∃ rows, outcome (transform sandbox source [(header, name)]) s =
        (.ok ⟨[Text.trim header], rows, source.rows.length, 0⟩, s) ∧
      List.Forall₂ (fun row cells => ∃ value, cells = [value] ∧ ShowsName source name row value)
        source.rows rows := by
  obtain ⟨o, hread, ho⟩ := h.exists_readRule source.headers
    (after?_filterMarker_of_isColumnRow hheader)
  have hload : RuleSet.load source.headers [(header, name)] =
      .ok ⟨[⟨Text.trim header, o⟩], []⟩ := by
    have hfilter : isFilterRow (header, name) = false := by
      simp only [isColumnRow, Bool.and_eq_true, Bool.not_eq_true'] at hheader
      simp [isFilterRow, hheader.2]
    rw [RuleSet.load_eq_ok_iff_rows, List.filter_singleton, List.filter_singleton, hheader, hfilter]
    exact ⟨.cons hread .nil, .nil⟩
  have hresolve : ∀ row, ∃ value, ShowsName source name row value ∧ ∀ rules outputRow,
      o.resolve sandbox (rowContext source rules row outputRow) = pure (.same (.text value)) := by
    intro row
    obtain ⟨value, hvalue, hresolve⟩ := h.exists_resolve hcolumn sandbox ho row
    exact ⟨value, hvalue, fun rules outputRow => hresolve rules outputRow []⟩
  obtain ⟨rows, hrows, hshows⟩ :=
    exists_processRows_of_texts ⟨Text.trim header, o⟩ hresolve 0 source.rows s
  refine ⟨rows, ?_, hshows⟩
  rw [transform_of_load hload, outcome_adapt_eq_ok_iff]
  refine outcome_bind_eq_ok_iff.mpr ⟨rows, s, hrows, ?_⟩
  rw [hshows.length_eq, Nat.sub_self]
  rfl

end Rows

/-- A bare name of a source column is read as the column exactly if no number begins in it, and
otherwise as an expression of its tokens. Wherever it is the instruction of an output column, a
transformation that succeeds shows the value of the source column in every row that is kept, or
the name itself if a number begins in it. As the only rule of a mapping it transforms every
table, and every row is kept. -/
theorem transform_bareName {source : Source} {header name : Text} (hname : BareName name)
    (hcolumn : name ∈ source.headers)
    (hheader : Text.after? filterMarker (Text.trim header) = none) :
    (readRule source.headers header name = .ok (.output ⟨Text.trim header, .direct name⟩) ↔
      ¬ HoldsNumber name) ∧
    (readRule source.headers header name = .ok (.output ⟨Text.trim header,
        .expression (tokenize name) name ((tokenize name).any Token.hasReference)⟩) ↔
      HoldsNumber name) ∧
    (∀ {σ ε : Type} (sandbox : Sandbox σ ε) mapping (j : Nat) s s' transformed,
      (mapping.filter isColumnRow)[j]? = some (header, name) →
      outcome (transform sandbox source mapping) s = (.ok transformed, s') →
      ∃ kept, kept.Sublist source.rows ∧ List.Forall₂ (fun row cells => ∃ value,
        cells[j]? = some value ∧ ShowsName source name row value) kept transformed.rows) ∧
    (isSkipped header = false → ∀ {σ ε : Type} (sandbox : Sandbox σ ε) s,
      ∃ rows, outcome (transform sandbox source [(header, name)]) s =
          (.ok ⟨[Text.trim header], rows, source.rows.length, 0⟩, s) ∧
        List.Forall₂ (fun row cells => ∃ value, cells = [value] ∧
          ShowsName source name row value) source.rows rows) := by
  obtain ⟨o, hread, ho⟩ := hname.exists_readRule source.headers hheader
  refine ⟨?_, ?_, ?_, ?_⟩
  · rcases ho with ⟨hnumber, rfl⟩ | ⟨hnumber, rfl⟩ <;> simp [hread, hnumber]
  · rcases ho with ⟨hnumber, rfl⟩ | ⟨hnumber, rfl⟩ <;> simp [hread, hnumber]
  · intro σ ε sandbox mapping j s s' transformed hrow htransform
    obtain ⟨rules, history, hload, rfl, hhistory⟩ := exists_history_of_transform htransform
    exact hname.cells_of_history hcolumn hload hrow hhistory
  · intro hskipped σ ε sandbox s
    refine hname.exists_transform hcolumn ?_ sandbox s
    simp [isColumnRow, hskipped, Text.startsWith, hheader]

/-- A name with a digit behind a letter is the name of a column that is shown. -/
theorem transform_bareName_quarter :
    let source : Source := ⟨["Q1 Total".toList], [["3".toList], []]⟩
    readRule source.headers "X".toList "Q1 Total".toList =
        .ok (.output ⟨"X".toList, .direct "Q1 Total".toList⟩) ∧
      (outcome (transform (.answering .text : Sandbox Unit Unit) source
        [("X".toList, "Q1 Total".toList)]) ()).1 =
        .ok ⟨["X".toList], [["3".toList], [[]]], 2, 0⟩ := by
  intro source
  have hname : BareName "Q1 Total".toList :=
    ⟨by decide, by decide +kernel, by decide, by decide +kernel, by decide +kernel⟩
  have hcolumn : "Q1 Total".toList ∈ source.headers := List.mem_singleton_self _
  have hnumber : ¬ HoldsNumber "Q1 Total".toList := hname.tokenize_eq_iff.mp (by decide +kernel)
  have hheader : Text.after? filterMarker (Text.trim "X".toList) = none := by decide +kernel
  exact ⟨(transform_bareName hname hcolumn hheader).1.mpr hnumber, by decide +kernel⟩

/-- A column whose name holds a number is not shown: its name is. -/
theorem transform_bareName_number :
    let source : Source := ⟨["Col 1".toList], [["v".toList]]⟩
    BareName "Col 1".toList ∧
      readRule source.headers "X".toList "Col 1".toList ≠
        .ok (.output ⟨"X".toList, .direct "Col 1".toList⟩) ∧
      (outcome (transform (.answering .text : Sandbox Unit Unit) source
        [("X".toList, "Col 1".toList)]) ()).1 =
        .ok ⟨["X".toList], [["Col 1".toList]], 1, 0⟩ := by
  intro source
  exact ⟨⟨by decide, by decide +kernel, by decide, by decide +kernel, by decide +kernel⟩,
    by decide +kernel, by decide +kernel⟩

end Rowscript
