import Rowscript.Text.Basic

/-!
# Balanced brackets

Brackets enclose column names, so an instruction with unbalanced ones is refused before
anything else is read from it.
-/

namespace Rowscript.Text

/-- Whether a text closes the given number of open brackets and all that it opens itself,
and never closes one that is not open. -/
def closesBrackets : Nat → Text → Bool
  | depth, [] => depth = 0
  | depth, c :: rest =>
    if c = '[' then closesBrackets (depth + 1) rest
    else if c = ']' then
      match depth with
      | 0 => false
      | depth + 1 => closesBrackets depth rest
    else closesBrackets depth rest

/-- Whether the brackets of a text are balanced. -/
def bracketsBalanced (t : Text) : Bool := closesBrackets 0 t

end Rowscript.Text
