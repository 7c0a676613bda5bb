import Rowscript.Proofs.References
import Rowscript.Proofs.Trimming
import Rowscript.Rule.Lexeme

/-!
# What tokens look like

Every token of an instruction has the form of its kind and is written in the instruction.
The lexemes of an instruction, one after the other, are the instruction without the blanks
at its end, so what several of them were written as is a part of it too.
-/

namespace Rowscript

namespace Token

/-- The forms of tokens, kind by kind. -/
inductive Shape : Token → Prop where
  /-- A reference to a column without brackets in its name. -/
  | reference (r : Reference) (hr : r.WellFormed) : Shape (ofReference r)
  /-- The symbol of an operator. -/
  | operator (op : Operator) : Shape (plain .operator op.symbol)
  /-- An equals sign with at least one character of a formula. -/
  | formula {body : Text} (hne : body ≠ []) (hbody : ∀ c ∈ body, isFormulaChar c = true) :
      Shape (plain .formula ('=' :: body))
  /-- A text without quotes between quotes. -/
  | string {value : Text} (hvalue : '"' ∉ value) : Shape ⟨.string, value, '"' :: value ++ ['"']⟩
  /-- Digits. -/
  | whole {digits : Text} (hne : digits ≠ []) (hdigits : ∀ c ∈ digits, Text.isDigit c = true) :
      Shape (plain .number digits)
  /-- Digits, a point or a comma, and more digits. -/
  | fraction {whole fraction : Text} {mark : Char} (hne : whole ≠ [])
      (hwhole : ∀ c ∈ whole, Text.isDigit c = true) (hmark : mark = '.' ∨ mark = ',')
      (hfraction : ∀ c ∈ fraction, Text.isDigit c = true) (hsome : fraction ≠ []) :
      Shape (plain .number (whole ++ mark :: fraction))
  /-- The mark between alternatives. -/
  | or : Shape (plain .or "||".toList)
  /-- Any other text. -/
  | text (raw : Text) : Shape (plain .text raw)

/-- The token of a reference is written as the reference. -/
@[simp] theorem raw_ofReference (r : Reference) : (ofReference r).raw = r.render := by
  rcases r with ⟨_ | _, column⟩ <;> rfl

/-- The kind of a reference's token says where its column is. -/
theorem kind_ofReference (r : Reference) :
    (ofReference r).kind = .sourceRef ∨ (ofReference r).kind = .selfRef := by
  rcases r with ⟨_ | _, column⟩
  · exact .inl rfl
  · exact .inr rfl

/-- A token of an operator's kind is the symbol of an operator. -/
theorem Shape.eq_operator {token : Token} (h : token.Shape) (hkind : token.kind = .operator) :
    ∃ op : Operator, token = plain .operator op.symbol := by
  cases h with
  | operator op => exact ⟨op, rfl⟩
  | reference r _ => rcases kind_ofReference r with h | h <;> simp [h] at hkind
  | _ => nomatch hkind

/-- A token of a formula's kind is an equals sign with characters of a formula. -/
theorem Shape.eq_formula {token : Token} (h : token.Shape) (hkind : token.kind = .formula) :
    ∃ body, token = plain .formula ('=' :: body) ∧ body ≠ [] ∧
      ∀ c ∈ body, isFormulaChar c = true := by
  cases h with
  | formula hne hbody => exact ⟨_, rfl, hne, hbody⟩
  | reference r _ => rcases kind_ofReference r with h | h <;> simp [h] at hkind
  | _ => nomatch hkind

/-- A token of plain text stands for itself. -/
theorem Shape.eq_text {token : Token} (h : token.Shape) (hkind : token.kind = .text) :
    token = plain .text token.raw := by
  cases h with
  | text raw => rfl
  | reference r _ => rcases kind_ofReference r with h | h <;> simp [h] at hkind
  | _ => nomatch hkind

/-- A number is written with digits and with a point or a comma. -/
theorem Shape.not_mem_of_number {token : Token} (h : token.Shape) (hkind : token.kind = .number)
    {c : Char} (hdigit : Text.isDigit c = false) (hmark : c ≠ '.' ∧ c ≠ ',') : c ∉ token.raw := by
  cases h with
  | whole _ hdigits => exact Text.not_mem_of_forall hdigit hdigits
  | fraction _ hwhole hpoint hfraction _ =>
    simp only [plain, List.mem_append, List.mem_cons, not_or]
    refine ⟨Text.not_mem_of_forall hdigit hwhole, ?_, Text.not_mem_of_forall hdigit hfraction⟩
    rintro rfl
    exact hpoint.elim hmark.1 hmark.2
  | reference r _ => rcases kind_ofReference r with h | h <;> simp [h] at hkind
  | _ => simp [plain] at hkind

/-- A reference that is read has its form and is written at the beginning. -/
theorem shape_of_reference? {t : Text} {token : Token} (h : reference? t = some token) :
    token.Shape ∧ token.raw <+: t := by
  simp only [reference?, Option.map_eq_some_iff] at h
  obtain ⟨⟨r, rest⟩, hscan, rfl⟩ := h
  obtain ⟨hr, rfl⟩ := Reference.scan?_eq_some_iff.mp hscan
  exact ⟨.reference r hr, rest, by rw [raw_ofReference]⟩

/-- An operator that is read has its form and is written at the beginning. -/
theorem shape_of_operator? {t : Text} {token : Token} (h : operator? t = some token) :
    token.Shape ∧ token.raw <+: t := by
  simp only [operator?, Option.map_eq_some_iff] at h
  obtain ⟨op, hfind, rfl⟩ := h
  have hstart : Text.startsWith op.symbol t = true := by simpa using List.find?_some hfind
  obtain ⟨rest, hrest⟩ := Option.isSome_iff_exists.mp hstart
  exact ⟨.operator op, rest, (Text.after?_eq_some_iff.mp hrest).symm⟩

/-- A formula that is read has its form and is written at the beginning. -/
theorem shape_of_formula? {t : Text} {token : Token} (h : formula? t = some token) :
    token.Shape ∧ token.raw <+: t := by
  unfold formula? at h
  split at h
  · next rest =>
    simp only [Option.ite_none_left_eq_some, Option.some.injEq] at h
    obtain ⟨hne, rfl⟩ := h
    refine ⟨.formula hne (List.all_eq_true.mp List.all_takeWhile), ?_⟩
    exact (List.prefix_cons_inj '=').mpr (List.takeWhile_prefix isFormulaChar)
  · simp at h

/-- A quoted string that is read has its form and is written at the beginning. -/
theorem shape_of_string? {t : Text} {token : Token} (h : string? t = some token) :
    token.Shape ∧ token.raw <+: t := by
  unfold string? at h
  split at h
  · next rest =>
    simp only [Option.ite_none_left_eq_some, Option.some.injEq] at h
    obtain ⟨hrest, rfl⟩ := h
    obtain ⟨c, tail, htail⟩ := List.exists_cons_of_ne_nil hrest
    have hc : c = '"' := by
      have hhead := List.head?_dropWhile_not (· ≠ '"') rest
      rw [htail] at hhead
      simpa using hhead
    refine ⟨.string fun hmem => ?_, tail, ?_⟩
    · simpa using List.all_eq_true.mp List.all_takeWhile _ hmem
    · have hsplit := List.takeWhile_append_dropWhile (p := (· ≠ '"')) (l := rest)
      rw [htail, hc] at hsplit
      simpa using hsplit
  · simp at h

/-- A number that is read has its form and is written at the beginning. -/
theorem shape_of_number? {t : Text} {token : Token} (h : number? t = some token) :
    token.Shape ∧ token.raw <+: t := by
  simp only [number?, Option.ite_none_left_eq_some] at h
  obtain ⟨hne, h⟩ := h
  have hwhole : ∀ c ∈ t.takeWhile Text.isDigit, Text.isDigit c = true :=
    List.all_eq_true.mp List.all_takeWhile
  have hplain : (plain .number (t.takeWhile Text.isDigit)).Shape ∧
      (plain .number (t.takeWhile Text.isDigit)).raw <+: t :=
    ⟨.whole hne hwhole, List.takeWhile_prefix Text.isDigit⟩
  split at h
  · next mark rest hdrop =>
    split at h
    · next hfraction =>
      simp only [Bool.and_eq_true, Bool.or_eq_true, decide_eq_true_eq] at hfraction
      obtain rfl := Option.some.inj h
      refine ⟨.fraction hne hwhole hfraction.1 (List.all_eq_true.mp List.all_takeWhile)
        hfraction.2, rest.dropWhile Text.isDigit, ?_⟩
      change t.takeWhile Text.isDigit ++ mark :: rest.takeWhile Text.isDigit ++
        rest.dropWhile Text.isDigit = t
      rw [List.append_assoc, List.cons_append, List.takeWhile_append_dropWhile, ← hdrop,
        List.takeWhile_append_dropWhile]
    · exact Option.some.inj h ▸ hplain
  · exact Option.some.inj h ▸ hplain

/-- A mark between alternatives that is read has its form and is written at the beginning. -/
theorem shape_of_or? {t : Text} {token : Token} (h : or? t = some token) :
    token.Shape ∧ token.raw <+: t := by
  simp only [or?, Option.ite_none_right_eq_some, Option.some.injEq] at h
  obtain ⟨hstart, rfl⟩ := h
  obtain ⟨rest, hrest⟩ := Option.isSome_iff_exists.mp hstart
  exact ⟨.or, rest, (Text.after?_eq_some_iff.mp hrest).symm⟩

/-- Every token that is read has the form of its kind and is written at the beginning. -/
theorem shape_of_scan? {before : Option Char} {t : Text} {token : Token}
    (h : scan? before t = some token) : token.Shape ∧ token.raw <+: t := by
  simp only [scan?, Option.or_eq_some_iff, Option.ite_none_right_eq_some] at h
  rcases h with ⟨_, h⟩ | ⟨_, h | ⟨_, h | ⟨_, h | ⟨_, ⟨_, h⟩ | ⟨_, h⟩⟩⟩⟩⟩
  · exact shape_of_reference? h
  · exact shape_of_operator? h
  · exact shape_of_formula? h
  · exact shape_of_string? h
  · exact shape_of_number? h
  · exact shape_of_or? h

/-- Plain text reaches over a beginning of what follows. -/
theorem plainTail_isPrefix (before : Char) (t : Text) : plainTail before t <+: t := by
  induction t generalizing before with
  | nil => exact List.nil_prefix
  | cons c rest ih =>
    rw [plainTail]
    split
    · exact List.nil_prefix
    · exact (List.prefix_cons_inj c).mpr (ih c)

/-- The token at the beginning of a text has the form of its kind and is written there. -/
theorem shape_first (c : Char) (rest : Text) :
    (first c rest).Shape ∧ (first c rest).raw <+: c :: rest := by
  unfold first
  cases h : scan? none (c :: rest) with
  | some token => exact shape_of_scan? h
  | none =>
    refine ⟨.text _, (Text.trimRight_isPrefix _).trans ?_⟩
    exact (List.prefix_cons_inj c).mpr (plainTail_isPrefix c rest)

/-- Two equals signs are an operator where a token begins. -/
theorem first_equals (rest : Text) :
    first '=' ('=' :: rest) = plain .operator "==".toList := by
  simp [first, scan?, startsWord, reference?, Reference.scan?, Reference.scanFrom?,
    Origin.opening, Text.after?, operator?, Operator.all, Operator.symbol, Text.startsWith]

end Token

/-- A text of blanks has no lexemes. -/
theorem lexemes_of_trimLeft_eq_nil {t : Text} (h : Text.trimLeft t = []) : lexemes t = [] := by
  rw [lexemes]
  split
  · rfl
  · next hcons => simp [h] at hcons

/-- The first lexeme of a text is its first token with the blanks before it, and the others
are those of what follows the token. -/
theorem lexemes_of_trimLeft_eq_cons {t rest : Text} {c : Char}
    (h : Text.trimLeft t = c :: rest) :
    lexemes t = ⟨t.takeWhile Text.isBlank, Token.first c rest⟩ ::
      lexemes ((c :: rest).drop (Token.first c rest).raw.length) := by
  rw [lexemes]
  split
  · next hnil => simp [h] at hnil
  · next d tail hcons =>
    rw [h] at hcons
    obtain ⟨rfl, rfl⟩ := List.cons.inj hcons
    rfl

/-- The lexemes of a text give back all of it but blanks at its end. -/
theorem exists_lexemes_append (t : Text) :
    ∃ blanks : Text, (∀ c ∈ blanks, Text.isBlank c = true) ∧
      t = (lexemes t).flatMap Lexeme.render ++ blanks := by
  fun_induction lexemes t with
  | case1 t h => exact ⟨t, List.dropWhile_eq_nil_iff.mp h, rfl⟩
  | case2 t c rest h token ih =>
    obtain ⟨blanks, hblank, hrest⟩ := ih
    refine ⟨blanks, hblank, ?_⟩
    have htoken : token.raw ++ (c :: rest).drop token.raw.length = c :: rest :=
      List.prefix_iff_eq_append.mp (Token.shape_first c rest).2
    rw [List.flatMap_cons, List.append_assoc, ← hrest, Lexeme.render, List.append_assoc, htoken,
      ← h]
    exact List.takeWhile_append_dropWhile.symm

/-- A token of a text has the form of its kind. -/
theorem shape_of_mem_lexemes {t : Text} {l : Lexeme} (hl : l ∈ lexemes t) : l.token.Shape := by
  fun_induction lexemes t with
  | case1 => simp at hl
  | case2 t c rest h token ih =>
    rcases List.mem_cons.mp hl with rfl | hl
    · exact (Token.shape_first c rest).1
    · exact ih hl

/-- Lexemes that follow one another are written in their text. -/
theorem flatMap_render_isInfix {t : Text} {ls : List Lexeme} (hls : ls <:+: lexemes t) :
    ls.flatMap Lexeme.render <:+: t := by
  obtain ⟨front, back, hsplit⟩ := hls
  obtain ⟨blanks, _, ht⟩ := exists_lexemes_append t
  refine ⟨front.flatMap Lexeme.render, back.flatMap Lexeme.render ++ blanks, ?_⟩
  rw [← hsplit] at ht
  conv_rhs => rw [ht]
  simp

/-- The text of a token is written in its text. -/
theorem raw_infix_of_mem_lexemes {t : Text} {l : Lexeme} (hl : l ∈ lexemes t) :
    l.token.raw <:+: t := by
  obtain ⟨front, back, hsplit⟩ := List.append_of_mem hl
  have hone : [l] <:+: lexemes t := ⟨front, back, by simp [hsplit]⟩
  have hrender : l.render <:+: t := by simpa using flatMap_render_isInfix hone
  exact (List.suffix_append l.blanks l.token.raw).isInfix.trans hrender

/-- A trimmed text that is a single lexeme is written as its token. -/
theorem raw_of_lexemes_eq_singleton {t : Text} (htrimmed : Text.trim t = t) {l : Lexeme}
    (h : lexemes t = [l]) : l.token.raw = t := by
  obtain ⟨blanks, hblank, hsplit⟩ := exists_lexemes_append t
  have hleft : Text.trimLeft t = t := by
    conv_lhs => rw [← htrimmed]
    rw [Text.trimLeft_trim, htrimmed]
  -- The only blanks are before the token and behind it, and a trimmed text has neither.
  have hbefore : l.blanks = [] := by
    cases t with
    | nil => simp [lexemes_of_trimLeft_eq_nil hleft] at h
    | cons c rest =>
      have hc : Text.isBlank c = false := Text.isBlank_eq_false_of_trim htrimmed
      rw [lexemes_of_trimLeft_eq_cons hleft] at h
      rw [← (List.cons.inj h).1]
      simp [hc]
  have hrender : (lexemes t).flatMap Lexeme.render = l.token.raw := by
    simp [h, Lexeme.render, hbefore]
  rw [hrender] at hsplit
  have hright : Text.trimRight t = t := by
    conv_lhs => rw [← htrimmed]
    rw [Text.trimRight_trim, htrimmed]
  rw [hsplit] at hright
  have hafter : blanks = [] := Text.eq_nil_of_trimRight_append hright hblank
  rw [hafter, List.append_nil] at hsplit
  exact hsplit.symm

end Rowscript
