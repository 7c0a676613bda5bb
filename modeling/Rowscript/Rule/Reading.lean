import Rowscript.Rule.Brackets
import Rowscript.Rule.Error
import Rowscript.Rule.Instruction

/-!
# Reading rules

A rule is a header and an instruction text. The header says whether the rule is a filter;
a marker at the beginning of the instruction says whether it is a fixed text, a formula,
or, in a filter, whether it is evaluated at all. References are checked against the
headers of the source table.
-/

namespace Rowscript

/-- The beginning of a filter's header. -/
def filterMarker : Text := "_filter:".toList

/-- The beginning of an evaluated filter's instruction. -/
def evalMarker : Text := "eval:".toList

/-- The beginning of a fixed text. -/
def constantMarker : Text := "constant:".toList

/-- The beginning of a formula. -/
def formulaMarker : Text := "formula:".toList

/-- Checks that every source reference in a text names one of the headers. -/
def checkReferences (headers : List Text) (t : Text) : Except RuleCause Unit :=
  match (references t).find? fun r => r.origin = .source && !headers.contains r.column with
  | some r => .error (.unknownColumn r.column)
  | none => .ok ()

/-- Whether a text begins with exactly one equals sign. -/
def startsFormula : Text → Bool
  | '=' :: '=' :: _ => false
  | '=' :: _ => true
  | _ => false

/-- Reads what follows the marker of a formula. -/
def readFormula (headers : List Text) (t : Text) : Except RuleCause Text :=
  let body := Text.trim t
  if startsFormula body then do
    checkReferences headers body
    return body
  else .error (.formulaStart body)

/-- Whether a token is a reference or a formula that holds one. -/
def Token.hasReference (token : Token) : Bool :=
  match token.kind with
  | .sourceRef => true
  | .selfRef => true
  | .formula => references token.raw ≠ []
  | _ => false

/-- The number that the text of a number token stands for. -/
def readNumber (t : Text) : Binary64 :=
  match Numeral.ofText? (Numeral.normalizeDecimal t) with
  | some numeral => .ofNumeral numeral
  | none => .nan

/-- The operand that one token is by itself. -/
def Operand.ofToken (token : Token) : Operand :=
  match token.kind with
  | .sourceRef => .reference ⟨.source, token.value⟩
  | .selfRef => .reference ⟨.output, token.value⟩
  | .string => .string token.value
  | .number => .number (readNumber token.value)
  | .formula => .formula token.value
  | .operator => .text token.raw
  | .or => .text token.raw
  | .text => .text token.raw

/-- The operand of one or more tokens that were written as the given text. -/
def Operand.ofTokens (tokens : List Token) (raw : Text) : Operand :=
  match tokens with
  | [token] => .ofToken token
  | _ => .compound tokens raw

/-- The text of lexemes, without the blanks around it. -/
def trimmedText (ls : List Lexeme) : Text := Text.trim (ls.flatMap Lexeme.render)

/-- The operand that lexemes stand for. -/
def Operand.ofLexemes (ls : List Lexeme) : Operand :=
  .ofTokens (ls.map Lexeme.token) (trimmedText ls)

/-- Reads one condition, given without the blanks around it. It is cut at its first
operator; without one it has to hold a formula and is one as a whole. -/
def readCondition (condition : Text) : Except RuleCause Condition :=
  let ls := lexemes condition
  if condition = [] then .error .emptyCondition
  else match ls.span fun l => l.token.kind ≠ .operator with
    | (left, operator :: right) =>
      if left = [] || right = [] then .error (.missingOperand condition)
      else .ok (.comparison (.ofLexemes left) operator.token.value (.ofLexemes right))
    | (_, []) =>
      if ls.any fun l => l.token.kind = .formula then .ok (.formula condition)
      else .error (.noComparison condition)

/-- The pieces of a text between its marks for alternatives. -/
def splitAlternatives : Text → List Text
  | [] => [[]]
  | '|' :: '|' :: rest => [] :: splitAlternatives rest
  | c :: rest =>
    match splitAlternatives rest with
    | [] => [[c]]
    | piece :: pieces => (c :: piece) :: pieces

/-- Reads the conditions of a filter. -/
def readConditions (t : Text) : Except RuleCause (List Condition) :=
  (splitAlternatives t).mapM fun condition => readCondition (Text.trim condition)

/-- Reads a filter. One that is not marked for evaluation is a note, of which only the
references and a formula's beginning are checked. -/
def readFilter (headers : List Text) (name raw : Text) : Except RuleCause FilterRule :=
  let evaluated := Text.after? evalMarker raw
  let body := (evaluated.map Text.trim).getD raw
  let active := evaluated.isSome
  match Text.after? formulaMarker body with
  | some t => do
    let template ← readFormula headers t
    return ⟨name, raw, active, .formula template⟩
  | none => do
    checkReferences headers body
    let conditions ← if active then readConditions body else pure []
    return ⟨name, raw, active, .anyOf conditions⟩

/-- Reads the instruction of an output column. -/
def readOutput (headers : List Text) (raw : Text) : Except RuleCause Output :=
  match Text.after? constantMarker raw, Text.after? formulaMarker raw with
  | some value, _ => return .constant (Text.trim value)
  | none, some t => return .formula (← readFormula headers t)
  | none, none => do
    checkReferences headers raw
    let tokens := tokenize raw
    match tokens with
    | [⟨.text, column, _⟩] => return .direct column
    | _ => return .expression tokens raw (tokens.any Token.hasReference)

/-- Reads a rule from a trimmed header and a trimmed instruction. -/
def readTrimmed (headers : List Text) (header raw : Text) : Except RuleCause Instruction :=
  if !Text.bracketsBalanced raw then .error (.unbalancedBrackets raw)
  else match Text.after? filterMarker header with
    | some name => return .filter (← readFilter headers (Text.trim name) raw)
    | none => return .output ⟨header, ← readOutput headers raw⟩

/-- Reads a rule against the headers of the source table. Blanks around the header and the
instruction do not count. -/
def readRule (headers : List Text) (header instruction : Text) :
    Except RuleError Instruction :=
  (readTrimmed headers (Text.trim header) (Text.trim instruction)).mapError
    fun cause => ⟨Text.trim header, cause⟩

/-- Reads rules in order, up to the first that cannot be read. -/
def readRules (headers : List Text) (rules : List (Text × Text)) :
    Except RuleError (List Instruction) :=
  rules.mapM fun (header, instruction) => readRule headers header instruction

end Rowscript
