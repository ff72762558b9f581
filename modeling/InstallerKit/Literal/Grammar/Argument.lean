import InstallerKit.Literal.Grammar.Comprehension

/-!
# The arguments of a call

Arguments without a name come before those with one, but lists of arguments may come
between them until there is a table of arguments. A generator that is the only argument
needs no parentheses of its own.
-/

namespace InstallerKit.Literal.Grammar

open Reader

variable (rules : Rule → Reader Expression)

/-- A list of arguments. -/
def listArgument : Reader Argument := do
  return .position (← starred rules).line

/-- An argument without a name. -/
def positionArgument : Reader Argument :=
  layer (choose [listArgument rules, do
    let e ← layer (bareNamed rules)
    notAhead (sign "=")
    return .position e.line])

/-- Looks for an equals sign after what is no name. -/
def nameSlip : Reader Argument := told [do
  let start ← line
  let word ← layer constant
  sign "="
  return some (.fixed word, start), do
  let start ← line
  let _ ← name
  sign "=" *> rules .expression *> clauses rules
  return some (.single, start), do
  notAhead (layer (name *> sign "="))
  let e ← rules .expression
  sign "="
  return some (.arguments .assignment, e.line)]

/-- An argument with a name, or another one. -/
def namedOr (other : Reader Argument) : Reader Argument :=
  layer (choose [ifCareful (nameSlip rules), name *> sign "=" *> rules .expression *> return .named,
    other])

/-- Arguments with names, and lists of arguments. -/
def namedOrList : Reader (List Argument) := separated (namedOr rules (listArgument rules))

/-- Arguments with names, and tables of arguments. -/
def namedOrTable : Reader (List Argument) :=
  separated (namedOr rules (sign "**" *> rules .expression *> return .table))

/-- Arguments that all have names, but for lists and tables of them. -/
def namedArguments : Reader (List Argument) :=
  layer (choose [do return (← namedOrList rules <* sign ",") ++ (← namedOrTable rules),
    namedOrList rules, namedOrTable rules])

/-- All kinds of arguments, in an order that is allowed. -/
def someArguments : Reader (List Argument) :=
  layer (choose [do
    let positions ← separated (positionArgument rules)
    let rest ← optional (layer (sign "," *> namedArguments rules))
    return positions ++ rest.getD [], namedArguments rules])

/-- The lines of the arguments without names, in reverse. -/
def positionLines (as : List Argument) : List Nat :=
  as.reverse.filterMap fun
    | .position line => some line
    | _ => none

/-- Looks for arguments in an order that is not allowed, and for generators. -/
def argumentSlip : Reader (List Argument) :=
  let generator : Reader Unit := rules .expression *> clauses rules
  told [do
    let start ← line
    let _ ← someArguments rules
    sign "," *> sign "*" *> return some (.arguments .listAfterTable, start), do
    let e ← rules .expression
    clauses rules
    sign ","
    let _ ← optional (layer (choose [someArguments rules *> return (), generator]))
    return some (.arguments .generator, e.line), do
    let start ← line
    name *> sign "=" *> generator *> return some (.single, start), do
    let as ← someArguments rules
    clauses rules
    return match positionLines as with
      | last :: _ :: _ => some (.arguments .generator, last)
      | _ => none, do
    let _ ← someArguments rules
    sign ","
    let e ← rules .expression
    clauses rules
    return some (.arguments .generator, e.line), do
    let as ← someArguments rules
    sign "," *> someArguments rules *> pure ()
    return some (.arguments (.positionAfterName (as.contains .table)), ← lastLine)]

/-- The arguments of a call, before its closing parenthesis. -/
def arguments : Reader (List Argument) :=
  layer (keepingArguments (choose [
    someArguments rules <* optional (sign ",") <* ahead (sign ")"),
    ifCareful (argumentSlip rules)]))

end InstallerKit.Literal.Grammar
