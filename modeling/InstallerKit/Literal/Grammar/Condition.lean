import InstallerKit.Literal.Grammar.Operator
import InstallerKit.Literal.Grammar.Parameter
import InstallerKit.Literal.Grammar.Member

/-!
# Whole expressions

An expression may depend on a condition, or be a function without a name. Two of them
next to each other lack a comma, unless they look like a statement.
-/

namespace InstallerKit.Literal.Grammar

open Reader

variable (rules : Rule → Reader Expression)

/-- The readers of an expression when slips are left aside. -/
def forms : List (Reader Expression) := [do
  let value ← rules .disjunction
  word "if"
  let condition ← rules .disjunction
  word "else"
  let otherwise ← rules .expression
  return .other value.line "conditional expression" [value, condition, otherwise],
  rules .disjunction, lambda rules]

/-- The name of a function that used to be called without parentheses, if an expression is
    one. -/
def bareFunction? : Expression → Option String
  | .name _ s => if s ∈ bareFunctions then some s else none
  | _ => none

/-- Looks for another expression right after one, and for a condition without its last
    part. -/
def expressionSlip : Reader Expression := told [do
  notAhead (layer (choose [name *> quoted *> pure (), softKeyword]))
  let e ← rules .disjunction
  let _ ← careless (layer (choose (forms rules)))
  let isInside := (← last?).any fun t => t.depth ≠ 0
  return if (bareFunction? e).isNone && isInside then some (.missingComma, e.line) else none, do
  let e ← rules .disjunction
  word "if" *> rules .disjunction *> notAhead (layer (choose [word "else", sign ":"]))
  return some (.missingElse, e.line)]

/-- Looks for a call without parentheses. -/
def callSlip : Reader Expression := told [do
  let start ← line
  let f ← name
  notAhead (sign "(")
  let _ ← tupleOr rules .starExpression
  return if f ∈ bareFunctions then some (.missingCall f, start) else none]

/-- An expression. -/
def expression : Reader Expression :=
  choose (ifCareful (expressionSlip rules) :: ifCareful (callSlip rules) :: forms rules)

/-- An expression, or a star and an operand. -/
def starExpression : Reader Expression :=
  choose [starredOf rules .union, rules .expression]

end InstallerKit.Literal.Grammar
