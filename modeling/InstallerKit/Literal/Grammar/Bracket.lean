import InstallerKit.Literal.Grammar.Comprehension

/-!
# Brackets

Between parentheses there is a tuple, a single expression, or a generator; between braces
there is a set or a table, or a comprehension of one.
-/

namespace InstallerKit.Literal.Grammar

open Reader

variable (rules : Rule → Reader Expression)

def tuple : Reader Expression := layer do
  let start ← line
  sign "("
  let es ← optional (layer do
    let first ← member rules
    sign ","
    return first :: (← optional (members rules)).getD [])
  sign ")"
  return .tuple start (es.getD [])

/-- Looks for a star before an expression in parentheses. -/
def starSlip : Reader Expression := told [do
  sign "("
  let e ← starred rules
  sign ")"
  return some (.starred, e.line), do
  sign "("
  let start ← line
  sign "**" *> rules .expression *> sign ")"
  return some (.doublyStarred, start)]

/-- An expression in parentheses. -/
def group : Reader Expression :=
  layer (choose [sign "(" *> layer (choose [yielded rules, named rules]) <* sign ")",
    ifCareful (starSlip rules)])

/-- Looks for members of a comprehension that have a star, or are several. -/
def comprehensionSlip : Reader Expression := told [do
  let _ ← layer (oneOf ["(", "\x7b"])
  let e ← starred rules
  clauses rules
  return some (.starredComprehension, e.line), do
  layer (sign "\x7b")
  let e ← member rules
  sign "," *> members rules *> clauses rules
  return some (.bareTarget, e.line), do
  layer (sign "\x7b")
  let e ← member rules
  sign "," *> clauses rules
  return some (.bareTarget, e.line)]

/-- A comprehension in parentheses. -/
def generator : Reader Expression := layer do
  let start ← line
  let e ← orElse (sign "(" *> layer (bareNamed rules) <* clauses rules <* sign ")")
    (ifCareful (comprehensionSlip rules))
  return .other start "generator expression" [e]

/-- A key and its value. -/
def pair : Reader (Option Expression × Expression) := layer do
  let key ← rules .expression
  sign ":"
  return (some key, ← rules .expression)

/-- An entry of a table: a key and its value, or another table with two stars. -/
def entry : Reader (Option Expression × Expression) :=
  layer (choose [do
    sign "**"
    return (none, ← rules .union), pair rules])

/-- Looks for what is wrong with a value after a colon. -/
def valueSlips : List (Reader (Option (Complaint × Nat))) := [do
  let _ ← rules .expression
  sign ":"
  let start ← line
  sign "*" *> rules .union *> return some (.starredValue, start), do
  let _ ← rules .expression
  let start ← line
  sign ":"
  ahead (layer (oneOf ["\x7d", ","]))
  return some (.missingValue, start)]

/-- Looks for what is wrong with the entries of a table. -/
def entrySlip : Reader Expression :=
  let last : Reader (Option (Complaint × Nat)) := told ((do
    let e ← rules .expression
    notAhead (sign ":")
    return some (.missingColon, e.line)) :: valueSlips rules)
  told ((separated (entry rules) *> sign "," *> last) :: valueSlips rules)

def table : Reader Expression := layer do
  let start ← line
  let entries : Reader (List (Option Expression × Expression)) :=
    layer (separated (entry rules) <* optional (sign ","))
  orElse (do
    let es ← sign "\x7b" *> optional entries <* sign "\x7d"
    return .dict start (es.getD [])) (sign "\x7b" *> entrySlip rules)

def set : Reader Expression := layer do
  let start ← line
  return .set start (← sign "\x7b" *> members rules <* sign "\x7d")

/-- Looks for two stars in a comprehension of a table. -/
def tableComprehensionSlip : Reader Expression := told [do
  sign "\x7b"
  let start ← line
  sign "**" *> rules .union *> clauses rules *> sign "\x7d"
  return some (.doublyStarredComprehension, start)]

/-- A comprehension of a table. -/
def tableComprehension : Reader Expression := layer do
  let start ← line
  orElse (do
    let (key, value) ← sign "\x7b" *> pair rules <* clauses rules <* sign "\x7d"
    return .other start "dict comprehension" (value :: key.toList))
    (ifCareful (tableComprehensionSlip rules))

/-- A comprehension of a set. -/
def setComprehension : Reader Expression := layer do
  let start ← line
  orElse (do
    let e ← sign "\x7b" *> named rules <* clauses rules <* sign "\x7d"
    return .other start "set comprehension" [e])
    (ifCareful (comprehensionSlip rules))

/-- What starts with a parenthesis. -/
def parenthesized : Reader Expression :=
  layer (choose [tuple rules, group rules, generator rules])

/-- What is between braces. -/
def braced : Reader Expression :=
  layer (choose [table rules, set rules, tableComprehension rules, setComprehension rules])

/-- Looks for a sign or a value after an expression that is no name for it. -/
def namingSlip : Reader Expression :=
  let noEquals : Reader Unit := notAhead (layer (oneOf ["=", ":="]))
  told [do
    let e ← rules .expression
    sign ":=" *> rules .expression *> return some (.unnameable e.kind, e.line), do
    let start ← line
    let _ ← name
    sign "=" *> rules .union *> noEquals *> return some (.single, start), do
    notAhead (layer (choose [tuple rules, generator rules, do
      let s ← constant
      return .constant 0 s]))
    let e ← rules .union
    sign "=" *> rules .union *> noEquals *> return some (.unassignable e.kind, e.line)]

end InstallerKit.Literal.Grammar
