import Rowscript.Row.Context
import Rowscript.Rule.Instruction

/-!
# Evaluating instructions for a row

Formulas are computed by a sandbox, which may keep a state of its own and may fail. The
evaluation of operands, conditions, filters and outputs says which references are looked up,
which formulas are submitted to the sandbox, and in which order.

A reference without a value is empty, unless there is an error for it among those that the
sandbox can fail with. So an evaluation that has to find every value is the same evaluation
with other errors.
-/

namespace Rowscript

/-- Computes the value of a formula. -/
abbrev Sandbox (σ ε : Type) := Text → ExceptT ε (StateM σ) Cell

/-- Why an evaluation fails. -/
inductive EvaluationError (ε : Type) where
  /-- The sandbox could not compute a formula, or a reference without a value has an error of
  the same kind. -/
  | sandbox (cause : ε)
  /-- A value that has to be compared is no floating-point number. -/
  | number (cause : NumberError)
  /-- A comparison has a symbol that is no operator's. -/
  | unknownOperator (symbol : Text)
  /-- A filter was asked for the value of an output column. -/
  | filterHasNoOutput
  deriving DecidableEq, Repr

/-- The text of an error, given the texts of the sandbox's own errors. -/
def EvaluationError.message {ε : Type} (sandboxMessage : ε → Text) : EvaluationError ε → Text
  | sandbox cause => sandboxMessage cause
  | number cause => cause.message
  | unknownOperator symbol => "Unknown operator: ".toList ++ symbol
  | filterHasNoOutput => "Unknown instruction type: FilterRule".toList

/-- A computation that may submit formulas to a sandbox. The state of the sandbox is kept
when the computation fails. -/
abbrev Evaluation (σ ε : Type) := ExceptT (EvaluationError ε) (StateM σ)

/-- What looking up a reference without a value comes to. -/
class Lookup (ε : Type) where
  /-- The error that the evaluation ends with; if there is none, the reference is empty. -/
  noValue? : Reference → Option ε

/-- Unless something else is said about its errors, an evaluation takes every reference without
a value for empty. -/
instance (priority := low) Lookup.lenient {ε : Type} : Lookup ε where
  noValue? _ := none

variable {σ ε : Type}

/-- A sandbox that notes every formula submitted to it, the latest first. -/
def Sandbox.recorded (sandbox : Sandbox σ ε) : Sandbox (σ × List Text) ε :=
  fun formula => ExceptT.mk fun (state, submitted) =>
    let (answer, state) := (sandbox formula).run state
    (answer, (state, formula :: submitted))

/-- Submits a formula to the sandbox. -/
def submit (sandbox : Sandbox σ ε) (formula : Text) : Evaluation σ ε Cell :=
  ExceptT.adapt EvaluationError.sandbox (sandbox formula)

/-- Whether two values stand in the relation of an operator, as a step of an evaluation. -/
def Operator.evaluate (op : Operator) (left right : Cell) : Evaluation σ ε Bool :=
  ExceptT.mk (pure ((op.holds left right).mapError EvaluationError.number))

section Evaluation

variable [Lookup ε]

namespace Context

/-- Looks up the value of a reference. -/
def lookup (ctx : Context) (r : Reference) : Evaluation σ ε Cell :=
  match ctx.value? r, (Lookup.noValue? r : Option ε) with
  | none, some e => throw (.sandbox e)
  | _, _ => return ctx.value r

/-- Looks up a reference and writes its value in the style of the context. -/
def lookupText (ctx : Context) (r : Reference) : Evaluation σ ε Text :=
  return ctx.style.write (← ctx.lookup r)

/-- Fills a template with values that are looked up. -/
def fillIn (ctx : Context) (live : Bool) (template : Text) : Evaluation σ ε Text :=
  ctx.fill live ctx.lookupText template

end Context

/-- Fills in the references of a formula as literals and submits it. -/
def evaluateFormula (sandbox : Sandbox σ ε) (ctx : Context) (template : Text) :
    Evaluation σ ε Cell := do
  submit sandbox (← ctx.forFormula.fillIn false template)

/-- The value of one side of a comparison. A formula counts as whether it came out true. -/
def Operand.evaluate (sandbox : Sandbox σ ε) (ctx : Context) : Operand → Evaluation σ ε Cell
  | reference r => return .text (← ctx.lookupText r)
  | string value => return .text value
  | number value => return .number value
  | text value => return .text value
  | formula template => return .bool (← evaluateFormula sandbox ctx template).isTrue
  | compound _ raw => return .text (← ctx.fillIn false raw)

/-- Whether a condition holds. The operator is looked up first, then the left side is
evaluated, then the right one. -/
def Condition.evaluate (sandbox : Sandbox σ ε) (ctx : Context) :
    Condition → Evaluation σ ε Bool
  | formula template => return (← evaluateFormula sandbox ctx template).isTrue
  | comparison left symbol right =>
    match Operator.ofSymbol? symbol with
    | none => throw (.unknownOperator symbol)
    | some op => do
      let x ← left.evaluate sandbox ctx
      let y ← right.evaluate sandbox ctx
      op.evaluate x y

/-- Whether some condition holds; the ones after the first that holds are not evaluated. -/
def anyHolds (sandbox : Sandbox σ ε) (ctx : Context) : List Condition → Evaluation σ ε Bool
  | [] => return false
  | condition :: rest => do
    if ← condition.evaluate sandbox ctx then return true else anyHolds sandbox ctx rest

/-- Whether a row passes a filter. -/
def FilterRule.passes (sandbox : Sandbox σ ε) (ctx : Context) (rule : FilterRule) :
    Evaluation σ ε Bool :=
  if !rule.active then return true
  else match rule.test with
    | .formula template => return (← evaluateFormula sandbox ctx template).isTrue
    | .anyOf conditions => anyHolds sandbox ctx conditions

/-- What an output column of a row is: the value written to the sheet and the value that
references to the column stand for. They differ for formulas, which are written as
formulas. -/
structure Resolved where
  literal : Cell
  evaluated : Cell
  deriving DecidableEq, Repr

/-- An output whose references see what is written. -/
def Resolved.same (value : Cell) : Resolved := ⟨value, value⟩

/-- Resolves a formula column. What is written refers to the row's other output cells by
their addresses; what is submitted has literals in their place. -/
def resolveFormula (sandbox : Sandbox σ ε) (ctx : Context) (template : Text) :
    Evaluation σ ε Resolved := do
  let literal ← ctx.forFormula.fillIn true template
  return ⟨.text literal, ← evaluateFormula sandbox ctx template⟩

/-- Resolves an output column. An expression that begins with an equals sign is a formula;
without references it is submitted as it stands. A column that is taken as it is has no
reference to look up. -/
def Output.resolve (sandbox : Sandbox σ ε) (ctx : Context) : Output → Evaluation σ ε Resolved
  | direct column => return .same (ctx.value ⟨.source, column⟩)
  | constant value => return .same (.text value)
  | formula template => resolveFormula sandbox ctx template
  | expression _ raw hasReference =>
    if raw.head? = some '=' then
      if hasReference then resolveFormula sandbox ctx raw
      else return ⟨.text raw, ← submit sandbox raw⟩
    else return .same (.text (← ctx.forDisplay.fillIn false raw))

/-- Resolves the output column of an instruction; a filter has none. -/
def Instruction.resolve (sandbox : Sandbox σ ε) (ctx : Context) :
    Instruction → Evaluation σ ε Resolved
  | output rule => rule.output.resolve sandbox ctx
  | filter _ => throw .filterHasNoOutput

end Evaluation

/-!
### Evaluation in a context

Where a reference without a value is empty, looking references up is reading the context: texts
are resolved as the context resolves them.
-/

namespace Context

variable (ctx : Context)

/-- A reference is looked up in the context. -/
theorem lookup_eq (r : Reference) :
    (ctx.lookup r : Evaluation σ ε Cell) = pure (ctx.value r) := by
  rw [lookup]
  cases ctx.value? r <;> rfl

/-- The text of a reference that is looked up is what is put in its place. -/
theorem lookupText_eq (r : Reference) :
    (ctx.lookupText r : Evaluation σ ε Text) = pure (ctx.substitute r) := by
  rw [lookupText, lookup_eq]
  rfl

/-- A template is filled with the values of the context. -/
theorem fillIn_eq (live : Bool) (template : Text) :
    (ctx.fillIn live template : Evaluation σ ε Text) = pure (ctx.resolve live template) := by
  rw [fillIn, funext ctx.lookupText_eq, fill_substitute]

end Context

section Equations

variable (sandbox : Sandbox σ ε) (ctx : Context)

/-- A formula is submitted with its references resolved to literals. -/
theorem evaluateFormula_eq (template : Text) :
    evaluateFormula sandbox ctx template =
      submit sandbox (ctx.forFormula.resolve false template) := by
  rw [evaluateFormula, Context.fillIn_eq, pure_bind]

/-- A reference has the text that is put in its place. -/
theorem Operand.evaluate_reference (r : Reference) :
    (reference r).evaluate sandbox ctx = pure (.text (ctx.substitute r)) := by
  rw [evaluate, Context.lookupText_eq, pure_bind]

/-- Text with references is resolved. -/
theorem Operand.evaluate_compound (tokens : List Token) (raw : Text) :
    (compound tokens raw).evaluate sandbox ctx = pure (.text (ctx.resolve false raw)) := by
  rw [evaluate, Context.fillIn_eq, pure_bind]

/-- A formula column is written with addresses and has the value of the formula. -/
theorem resolveFormula_eq (template : Text) :
    resolveFormula sandbox ctx template = do
      return ⟨.text (ctx.forFormula.resolve true template),
        ← evaluateFormula sandbox ctx template⟩ := by
  rw [resolveFormula, Context.fillIn_eq, pure_bind]

/-- An expression is a formula, with references or without, or text to show. -/
theorem Output.resolve_expression (tokens : List Token) (raw : Text) (hasReference : Bool) :
    (expression tokens raw hasReference).resolve sandbox ctx =
      if raw.head? = some '=' then
        if hasReference then resolveFormula sandbox ctx raw
        else do return ⟨.text raw, ← submit sandbox raw⟩
      else return .same (.text (ctx.forDisplay.resolve false raw)) := by
  rw [resolve, Context.fillIn_eq, pure_bind]

end Equations

end Rowscript
