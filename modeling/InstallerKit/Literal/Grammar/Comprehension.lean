import InstallerKit.Literal.Grammar.Member

/-!
# Comprehensions

A comprehension goes through the members of other values: it has targets that take each
member in turn, and conditions on them.
-/

namespace InstallerKit.Literal

mutual

/-- The first part of an expression that is no target of a comprehension. -/
def Expression.badTarget? : Expression → Option Expression
  | .tuple _ es => badTargetIn? es
  | .starred _ e => e.badTarget?
  | .comparison _ left membership _ => if membership then left.badTarget? else none
  | .name _ _ | .other _ "attribute" _ => none
  | e => some e

/-- The first part of some expressions that is no target. -/
def Expression.badTargetIn? : List Expression → Option Expression
  | [] => none
  | e :: es => e.badTarget? <|> badTargetIn? es

end

namespace Grammar

open Reader

variable (rules : Rule → Reader Expression)

/-- The targets of a comprehension. -/
def targets : Reader Unit := layer do
  let _ ← rules .target
  let _ ← many (layer (sign "," *> rules .target))
  let _ ← optional (sign ",")

/-- Looks for a target that is none. -/
def targetSlip : Reader Unit := told [do
  let _ ← optional (word "async")
  word "for"
  let e ← tupleOr rules .starExpression
  return e.badTarget?.map fun bad => (.fixed bad.kind, bad.line)]

/-- The values of a comprehension and the targets for them, with conditions. -/
def clause : Reader Unit := layer do
  match ← optional (optional (word "async") *> word "for" *> targets rules *> word "in") with
  | some () =>
    let _ ← rules .disjunction
    let _ ← many (layer (word "if" *> rules .disjunction))
  | none => ifCareful (targetSlip rules)

/-- The values and targets of a comprehension, at least once. -/
def clauses : Reader Unit := layer do
  let _ ← atLeastOne (clause rules)

end Grammar

end InstallerKit.Literal
