import InstallerKit.Literal.Grammar.Word

/-!
# The parameters of a function without a name

Parameters without a default value come before those that have one. A slash ends those
that are given by position only, and a star begins those that are given by name only. Two
stars come last.
-/

namespace InstallerKit.Literal.Grammar

open Reader

variable (rules : Rule → Reader Expression)

/-- The end of a parameter: a comma, or the colon after all of them. -/
def parameterEnd : Reader Unit := orElse (sign ",") (ahead (sign ":"))

/-- A parameter without what may come after its name. Answers its line. -/
def parameter : Reader Nat := layer (line <* name)

/-- Looks for a default value that is missing. -/
def defaultSlip : Reader Unit := told [do
  let start ← line
  sign "="
  ahead (layer (oneOf [")", ","]))
  return some (.parameters .missingDefault, start)]

def defaultValue : Reader Unit :=
  layer (choose [sign "=" *> rules .expression *> return (), ifCareful defaultSlip])

/-- A parameter without a default value. -/
def plainParameter : Reader Nat := layer (parameter <* parameterEnd)

/-- A parameter with a default value. -/
def defaultParameter : Reader Nat := layer (parameter <* defaultValue rules <* parameterEnd)

/-- A parameter that may have a default value. -/
def anyParameter : Reader Nat :=
  layer (choose [parameter <* optional (defaultValue rules) <* sign ",",
    parameter <* optional (defaultValue rules) <* ahead (sign ":")])

/-- Parameters without default values, and a slash. -/
def plainSlash : Reader Unit :=
  layer (atLeastOne plainParameter *> sign "/" *> parameterEnd)

/-- Parameters of which the last ones have default values, and a slash. -/
def defaultSlash : Reader Unit :=
  layer (many plainParameter *> atLeastOne (defaultParameter rules) *> sign "/" *> parameterEnd)

def anySlash : Reader Unit := layer (choose [plainSlash, defaultSlash rules])

/-- What may follow the name of a parameter with stars before it. -/
def tablesSlip : Reader Unit := told [do
  let _ ← sign "**" *> parameter
  let start ← line
  sign "="
  return some (.parameters (.starDefault true), start), do
  let start ← sign "**" *> parameter *> sign "," *> parameter
  return some (.parameters .afterDoubleStar, start), do
  let _ ← sign "**" *> parameter *> sign ","
  let start ← line
  let _ ← oneOf ["*", "**", "/"]
  return some (.parameters .afterDoubleStar, start)]

/-- A parameter with two stars. -/
def tables : Reader Unit :=
  layer (choose [ifCareful tablesSlip, sign "**" *> plainParameter *> return ()])

/-- Looks for what is wrong after a star. -/
def starParameterSlip : Reader Unit := told [do
  sign "*"
  layer (choose [sign ":", sign "," *> layer (choose [sign ":", sign "**"])])
  return some (.parameters .bareStar, ← lastLine), do
  let _ ← sign "*" *> parameter
  let start ← line
  sign "="
  return some (.parameters (.starDefault false), start), do
  sign "*"
  layer (choose [plainParameter *> return (), sign ","])
  let _ ← many (anyParameter rules)
  let start ← line
  sign "*"
  layer (choose [plainParameter *> return (), sign ","])
  return some (.parameters .starTwice, start)]

/-- What starts with a star, or with two. -/
def starParameters : Reader Unit :=
  layer (choose [ifCareful (starParameterSlip rules),
    sign "*" *> plainParameter *> many (anyParameter rules) *> optional tables *> return (),
    sign "*" *> sign "," *> atLeastOne (anyParameter rules) *> optional tables *> return (),
    tables])

/-- Parameters in an order that is allowed. -/
def allParameters : Reader Unit :=
  let rest : Reader Unit := do
    let _ ← many (defaultParameter rules)
    let _ ← optional (starParameters rules)
  layer (choose [plainSlash *> many plainParameter *> rest, defaultSlash rules *> rest,
    atLeastOne plainParameter *> rest, atLeastOne (defaultParameter rules) *> rest,
    starParameters rules])

/-- Looks for parameters in an order that is not allowed. -/
def parameterSlip : Reader Unit :=
  let flaw (p : ParameterFlaw) (start : Nat) : Reader (Option (Complaint × Nat)) :=
    return some (.parameters p, start)
  told [do
    let _ ← many plainParameter
    layer (choose [defaultSlash rules, atLeastOne (defaultParameter rules) *> return ()])
    flaw .order (← plainParameter), do
    let _ ← many plainParameter
    let start ← line
    sign "(" *> separated parameter *> optional (sign ",") *> sign ")"
    flaw .parenthesized start, do
    let start ← line
    sign "/" *> sign ","
    flaw .slashFirst start, do
    anySlash rules
    let _ ← many (anyParameter rules)
    let start ← line
    sign "/"
    flaw .slashTwice start, do
    let _ ← optional (anySlash rules)
    let _ ← many (anyParameter rules)
    sign "*"
    layer (choose [sign ",", plainParameter *> return ()])
    let _ ← many (anyParameter rules)
    let start ← line
    sign "/"
    flaw .slashAfterStar start, do
    let _ ← atLeastOne (anyParameter rules)
    sign "/"
    let start ← line
    sign "*"
    flaw .slashBeforeStar start]

/-- A function without a name. -/
def lambda : Reader Expression := layer do
  let start ← line
  word "lambda"
  let _ ← optional (layer (choose [ifCareful (parameterSlip rules), allParameters rules]))
  sign ":"
  return .other start "lambda" [← rules .expression]

end InstallerKit.Literal.Grammar
