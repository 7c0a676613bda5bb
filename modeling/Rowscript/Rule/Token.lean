import Rowscript.Cell.Comparison
import Rowscript.Rule.Reference
import Rowscript.Text.WordChar

/-!
# Tokens of an instruction

An instruction is cut into tokens: references, operators, formulas, quoted strings,
numbers, the mark between alternatives, and whatever lies between them as plain text.
This file says what each kind looks like at the beginning of a text, and how far plain
text reaches.
-/

namespace Rowscript

/-- The kinds of token. -/
inductive TokenKind where
  | sourceRef
  | selfRef
  | string
  | number
  | operator
  | or
  | formula
  | text
  deriving DecidableEq, Repr

/-- The name of a kind, as token listings show it. -/
def TokenKind.name : TokenKind → Text
  | .sourceRef => "source_ref".toList
  | .selfRef => "self_ref".toList
  | .string => "string".toList
  | .number => "number".toList
  | .operator => "operator".toList
  | .or => "or".toList
  | .formula => "formula".toList
  | .text => "text".toList

/-- A token: its kind, the value it carries and the exact text it was read from. -/
structure Token where
  kind : TokenKind
  value : Text
  raw : Text
  deriving DecidableEq, Repr

namespace Token

/-- A token whose value is its own text. -/
def plain (kind : TokenKind) (raw : Text) : Token := ⟨kind, raw, raw⟩

/-- The token of a reference: its value is the column name. -/
def ofReference (r : Reference) : Token :=
  match r.origin with
  | .source => ⟨.sourceRef, r.column, r.render⟩
  | .output => ⟨.selfRef, r.column, r.render⟩

/-- Reads a reference. -/
def reference? (t : Text) : Option Token :=
  (Reference.scan? t).map fun (r, _) => ofReference r

/-- Reads a comparison operator. -/
def operator? (t : Text) : Option Token :=
  (Operator.all.find? fun op => Text.startsWith op.symbol t).map fun op =>
    plain .operator op.symbol

/-- A character that may follow the equals sign of a formula. -/
def isFormulaChar (c : Char) : Bool :=
  c ≠ '"' && !Text.isBlank c && c ≠ '|' && c ≠ '='

/-- Reads a formula: an equals sign and at least one character of a formula. -/
def formula? : Text → Option Token
  | '=' :: rest =>
    let body := rest.takeWhile isFormulaChar
    if body = [] then none else some (plain .formula ('=' :: body))
  | _ => none

/-- Reads a quoted string: its value is the text between the quotes. -/
def string? : Text → Option Token
  | '"' :: rest =>
    let value := rest.takeWhile (· ≠ '"')
    if rest.dropWhile (· ≠ '"') = [] then none
    else some ⟨.string, value, '"' :: value ++ ['"']⟩
  | _ => none

/-- Reads a number: digits, and perhaps a point or comma with more digits. -/
def number? (t : Text) : Option Token :=
  let whole := t.takeWhile Text.isDigit
  if whole = [] then none
  else match t.dropWhile Text.isDigit with
    | mark :: rest =>
      let fraction := rest.takeWhile Text.isDigit
      if (mark = '.' || mark = ',') && fraction ≠ [] then
        some (plain .number (whole ++ mark :: fraction))
      else some (plain .number whole)
    | [] => some (plain .number whole)

/-- Reads the mark between alternatives. -/
def or? (t : Text) : Option Token :=
  if Text.startsWith "||".toList t then some (plain .or "||".toList) else none

/-- Whether a reference or number may begin after the given character. -/
def startsWord (before : Option Char) : Bool := !before.any Text.isWordChar

/-- Reads a token other than plain text at the beginning of a text. References and
numbers only begin where no word runs into them, so the character before is given as
well. -/
def scan? (before : Option Char) (t : Text) : Option Token :=
  ((if startsWord before then reference? t else none).or <| (operator? t).or <|
    (formula? t).or <| (string? t).or <|
      (if startsWord before then number? t else none).or <| or? t)

/-- The rest of a span of plain text after the given character: it ends at the first
character that is no blank and begins a token. -/
def plainTail (before : Char) : Text → Text
  | [] => []
  | c :: rest =>
    if !Text.isBlank c && (scan? (some before) (c :: rest)).isSome then []
    else c :: plainTail c rest

/-- The token at the beginning of a text whose first character is given apart. -/
def first (c : Char) (rest : Text) : Token :=
  (scan? none (c :: rest)).getD (plain .text (Text.trimRight (c :: plainTail c rest)))

/-- A reference that is read has text. -/
theorem raw_ne_nil_of_reference? {t : Text} {token : Token} (h : reference? t = some token) :
    token.raw ≠ [] := by
  simp only [reference?, Option.map_eq_some_iff] at h
  obtain ⟨⟨⟨origin, column⟩, _⟩, _, rfl⟩ := h
  cases origin <;> simp [ofReference, Reference.render, Origin.opening]

/-- An operator that is read has text. -/
theorem raw_ne_nil_of_operator? {t : Text} {token : Token} (h : operator? t = some token) :
    token.raw ≠ [] := by
  simp only [operator?, Option.map_eq_some_iff] at h
  obtain ⟨op, _, rfl⟩ := h
  cases op <;> simp [plain, Operator.symbol]

/-- A formula that is read has text. -/
theorem raw_ne_nil_of_formula? {t : Text} {token : Token} (h : formula? t = some token) :
    token.raw ≠ [] := by
  unfold formula? at h
  split at h
  · simp only [Option.ite_none_left_eq_some, Option.some.injEq] at h
    simp [← h.2, plain]
  · simp at h

/-- A quoted string that is read has text. -/
theorem raw_ne_nil_of_string? {t : Text} {token : Token} (h : string? t = some token) :
    token.raw ≠ [] := by
  unfold string? at h
  split at h
  · simp only [Option.ite_none_left_eq_some, Option.some.injEq] at h
    simp [← h.2]
  · simp at h

/-- A number that is read has text. -/
theorem raw_ne_nil_of_number? {t : Text} {token : Token} (h : number? t = some token) :
    token.raw ≠ [] := by
  simp only [number?, Option.ite_none_left_eq_some] at h
  obtain ⟨hwhole, h⟩ := h
  split at h
  · split at h
    · simp only [Option.some.injEq] at h
      simp [← h, plain]
    · simp only [Option.some.injEq] at h
      simpa [← h, plain] using hwhole
  · simp only [Option.some.injEq] at h
    simpa [← h, plain] using hwhole

/-- The mark between alternatives has text. -/
theorem raw_ne_nil_of_or? {t : Text} {token : Token} (h : or? t = some token) :
    token.raw ≠ [] := by
  simp only [or?, Option.ite_none_right_eq_some, Option.some.injEq] at h
  simp [← h.2, plain]

/-- Every token that is read has text. -/
theorem raw_ne_nil_of_scan? {before : Option Char} {t : Text} {token : Token}
    (h : scan? before t = some token) : token.raw ≠ [] := by
  simp only [scan?, Option.or_eq_some_iff, Option.ite_none_right_eq_some] at h
  rcases h with ⟨_, h⟩ | ⟨_, h | ⟨_, h | ⟨_, h | ⟨_, ⟨_, h⟩ | ⟨_, h⟩⟩⟩⟩⟩
  · exact raw_ne_nil_of_reference? h
  · exact raw_ne_nil_of_operator? h
  · exact raw_ne_nil_of_formula? h
  · exact raw_ne_nil_of_string? h
  · exact raw_ne_nil_of_number? h
  · exact raw_ne_nil_of_or? h

end Token

end Rowscript
