import InstallerKit.Literal.Grammar.Primary

/-!
# Targets

A target is a name, or a primary expression that ends in the name of a part. Several
targets may be in parentheses, and each may have a star.
-/

namespace InstallerKit.Literal.Grammar

open Reader

variable (rules : Rule → Reader Expression)

/-- What follows a primary expression that is no whole target. -/
def targetRest : Reader Unit := layer (oneOf ["(", "[", "."] *> pure ())

/-- A primary expression that is no whole target. -/
def targetBase : Reader Expression := do
  let e ← atom rules <* ahead targetRest
  let trailers ← repeatedly (choose [part, call rules] <* ahead targetRest)
  return trailers.foldl Trailer.apply e

/-- Several targets with commas, or a single one that a comma follows. -/
def targetTuple : Reader (List Expression) :=
  layer (choose [do
    let first ← rules .target
    let rest ← layer (atLeastOne (layer (sign "," *> rules .target)))
    let _ ← optional (sign ",")
    return first :: rest, do
    let e ← rules .target
    sign ","
    return [e]])

/-- A target that does not end in the name of a part. -/
def targetAtom : Reader Expression := layer do
  let start ← line
  choose [.name start <$> name, sign "(" *> rules .place <* sign ")", do
    let es ← sign "(" *> optional (targetTuple rules) <* sign ")"
    return .tuple start (es.getD [])]

/-- A target without a star. -/
def targetPlace : Reader Expression :=
  choose [do
    let e ← rules .base
    let t ← part
    notAhead targetRest
    return t.apply e, targetAtom rules]

def target : Reader Expression := do
  let start ← line
  choose [.starred start <$> (sign "*" *> layer (notAhead (sign "*") *> rules .target)),
    rules .place]

end InstallerKit.Literal.Grammar
