import InstallerKit.Literal.Grammar.Word

/-!
# Members

The members of brackets are expressions that may be given a name or, in some places, a
star. Several of them have commas in between, and one may follow the last.
-/

namespace InstallerKit.Literal.Grammar

open Reader

variable (rules : Rule → Reader Expression)

/-- An expression with a name for it. -/
def assignment : Reader Expression := layer do
  let start ← line
  let _ ← name
  sign ":="
  return .other start "named expression" [← rules .expression]

/-- An expression that has a name, or none and does not look like it. -/
def bareNamed : Reader Expression :=
  choose [assignment rules, rules .expression <* notAhead (sign ":=")]

/-- An expression that may be given a name. -/
def named : Reader Expression :=
  layer (choose [assignment rules, ifCareful (rules .namingSlip),
    rules .expression <* notAhead (sign ":=")])

/-- A star and an expression of a level. -/
def starredOf (level : Rule) : Reader Expression := do
  let start ← line
  sign "*"
  return .starred start (← rules level)

/-- An expression with a star. -/
def starred : Reader Expression := layer (starredOf rules .expression)

/-- A member, which may have a star. -/
def member : Reader Expression := layer (choose [starredOf rules .union, named rules])

/-- Members, with a comma after the last one or without. -/
def members : Reader (List Expression) :=
  layer (separated (member rules) <* optional (sign ","))

/-- Expressions with commas in between. A single one is no tuple unless a comma follows it. -/
def tupleOr (level : Rule) : Reader Expression := layer do
  let first ← rules level
  let rest ← many (layer (sign "," *> rules level))
  let comma ← optional (sign ",")
  return if rest.isEmpty && comma.isNone then first else .tuple first.line (first :: rest)

/-- What a function gives at a time. -/
def yielded : Reader Expression := layer do
  let start ← line
  word "yield"
  let wrap (e : Option Expression) : Expression := .other start "yield expression" e.toList
  choose [word "from" *> (wrap <$> some <$> rules .expression),
    wrap <$> optional (tupleOr rules .starExpression)]

end InstallerKit.Literal.Grammar
