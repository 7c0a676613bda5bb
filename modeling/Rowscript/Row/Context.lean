import Rowscript.Cell.Literal
import Rowscript.Rule.Reference

/-!
# The values a row has so far

While a row is computed, references are resolved against its source values and the
outputs computed before. A template is filled in one pass over its pieces, so a value that
itself looks like a reference is not resolved again. How the texts for references come about
is left open, because looking up a value may be a step of an evaluation.
-/

namespace Rowscript

/-- Named values; where a name occurs twice the first entry counts. -/
abbrev Bindings (α : Type) := List (Text × α)

/-- How the value of a reference is written: as a sheet displays it, or as a literal of the
formula language. -/
inductive Style where
  | display
  | literal
  deriving DecidableEq, Repr

/-- The text of a value in a style. -/
@[simp] def Style.write : Style → Cell → Text
  | display, value => value.display
  | literal, value => value.formulaLiteral

/-- What references are resolved against, and how. -/
structure Context where
  /-- The values of the source row. -/
  source : Bindings Cell
  /-- The outputs computed so far, the latest first. -/
  outputs : Bindings Cell
  /-- The addresses of the cells of the output row. -/
  addresses : Bindings Text
  /-- How values are written in the place of references. -/
  style : Style
  deriving Repr

namespace Context

/-- The value that a row has for a reference, if it has one. -/
def value? (ctx : Context) (r : Reference) : Option Cell :=
  match r.origin with
  | .source => ctx.source.lookup r.column
  | .output => ctx.outputs.lookup r.column

/-- The value that a reference stands for; a column without one is empty. -/
def value (ctx : Context) (r : Reference) : Cell := (ctx.value? r).getD (.text [])

/-- The text that is put in the place of a reference. -/
def substitute (ctx : Context) (r : Reference) : Text := ctx.style.write (ctx.value r)

/-- The address of the output cell that a reference names, if it names one. -/
def address? (ctx : Context) (r : Reference) : Option Text :=
  match r.origin with
  | .source => none
  | .output => ctx.addresses.lookup r.column

section Templates

variable {m : Type → Type} [Monad m]

/-- The text of one piece of a template, where `text` gives the texts for references. With
`live`, a reference to an output becomes the address of its cell where that is known. -/
def fillPiece (ctx : Context) (live : Bool) (text : Reference → m Text) : Piece → m Text
  | .char c => return [c]
  | .reference r =>
    match live, ctx.address? r with
    | true, some address => return address
    | _, _ => text r

/-- A template with all its references replaced, one after the other. -/
def fill (ctx : Context) (live : Bool) (text : Reference → m Text) (template : Text) : m Text :=
  return (← (pieces template).mapM (ctx.fillPiece live text)).flatten

end Templates

/-- The text of one piece of a template with the values of the context. -/
def resolvePiece (ctx : Context) (live : Bool) (piece : Piece) : Text :=
  Id.run (ctx.fillPiece live (fun r => pure (ctx.substitute r)) piece)

/-- A template with all its references replaced by the values of the context. -/
def resolve (ctx : Context) (live : Bool) (template : Text) : Text :=
  Id.run (ctx.fill live (fun r => pure (ctx.substitute r)) template)

/-- The context for resolving formulas. -/
def forFormula (ctx : Context) : Context := { ctx with style := .literal }

/-- The context for resolving text that is shown. -/
def forDisplay (ctx : Context) : Context := { ctx with style := .display }

/-- The context after one more output has been computed. -/
def withOutput (ctx : Context) (header : Text) (value : Cell) : Context :=
  { ctx with outputs := (header, value) :: ctx.outputs }

section Templates

variable (ctx : Context) (live : Bool)

/-- What is written between references stays as it is. -/
@[simp] theorem resolvePiece_char (c : Char) : ctx.resolvePiece live (.char c) = [c] := rfl

/-- A reference is replaced by its value, unless its address is to be written and known. -/
theorem resolvePiece_reference_eq (r : Reference) :
    ctx.resolvePiece live (.reference r) =
      match live, ctx.address? r with
      | true, some address => address
      | _, _ => ctx.substitute r := by
  cases live <;> cases haddress : ctx.address? r <;>
    simp [resolvePiece, fillPiece, haddress]

/-- A template is resolved piece by piece. -/
theorem resolve_eq_flatMap (template : Text) :
    ctx.resolve live template = (pieces template).flatMap (ctx.resolvePiece live) := by
  rw [resolve, fill, Id.run_bind, List.idRun_mapM, List.flatMap_def]
  rfl

variable {m : Type → Type} [Monad m]

/-- Filling a piece with the values of the context is resolving it. -/
theorem fillPiece_substitute (piece : Piece) :
    ctx.fillPiece live (fun r => (pure (ctx.substitute r) : m Text)) piece =
      pure (ctx.resolvePiece live piece) := by
  cases piece with
  | char c => rfl
  | reference r =>
    cases live <;> cases haddress : ctx.address? r <;>
      simp [resolvePiece_reference_eq, fillPiece, haddress]

/-- Filling a template with the values of the context is resolving it. -/
theorem fill_substitute [LawfulMonad m] (template : Text) :
    ctx.fill live (fun r => (pure (ctx.substitute r) : m Text)) template =
      pure (ctx.resolve live template) := by
  have hpieces : ctx.fillPiece live (fun r => (pure (ctx.substitute r) : m Text)) =
      fun piece => pure (ctx.resolvePiece live piece) :=
    funext fun piece => ctx.fillPiece_substitute live piece
  rw [fill, hpieces, List.mapM_pure, pure_bind, resolve_eq_flatMap, List.flatMap_def]

end Templates

end Context

end Rowscript
