import Rowscript.Text.Basic

/-!
# Errors in rules

A rule that cannot be read is reported with its header and the cause.
-/

namespace Rowscript

/-- Why a rule cannot be read. -/
inductive RuleCause where
  | unbalancedBrackets (raw : Text)
  | unknownColumn (column : Text)
  | formulaStart (body : Text)
  | emptyCondition
  | noComparison (condition : Text)
  | missingOperand (condition : Text)
  deriving DecidableEq, Repr

/-- A rule that cannot be read, by its header. -/
structure RuleError where
  header : Text
  cause : RuleCause
  deriving DecidableEq, Repr

/-- The text of a cause. -/
def RuleCause.message : RuleCause → Text
  | .unbalancedBrackets raw => "Unbalanced brackets in '".toList ++ raw ++ "'".toList
  | .unknownColumn column =>
    "Column '".toList ++ column ++ "' not found in source headers".toList
  | .formulaStart body =>
    "Formula '".toList ++ body ++ "' must start with a single '='".toList
  | .emptyCondition => "Empty filter condition".toList
  | .noComparison condition =>
    "Condition '".toList ++ condition ++ "' has no comparison operator or formula".toList
  | .missingOperand condition =>
    "Condition '".toList ++ condition ++ "' is missing an operand".toList

/-- The text of an error: the header of the rule and the cause. -/
def RuleError.message (e : RuleError) : Text :=
  "Rule '".toList ++ e.header ++ "': ".toList ++ e.cause.message

end Rowscript
