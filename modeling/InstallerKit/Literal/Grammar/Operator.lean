import InstallerKit.Literal.Grammar.Word

/-!
# Operators

Operands are joined by operators, level by level: what binds loosest is read by the first
rules of this module, which leave the rest to the ones after them.

The rules of the grammar are given by `rules`, so that each may use all of them.
-/

namespace InstallerKit.Literal.Grammar

open Reader

variable (rules : Rule → Reader Expression)

/-- Expressions of a level with a word between them. -/
def joined (between : String) (level : Rule) : Reader Expression := do
  let first ← rules level
  let rest ← many (layer (word between *> rules level))
  return if rest.isEmpty then first else .other first.line "expression" (first :: rest)

def disjunction : Reader Expression := joined rules "or" .conjunction

def conjunction : Reader Expression := joined rules "and" .inversion

/-- The signs between what is compared. -/
def comparisonSigns : List String := ["==", "!=", "<=", "<", ">=", ">"]

/-- The beginning of a comparison's second part. Answers whether it is `in`. -/
def comparator : Reader Bool :=
  choose [oneOf comparisonSigns *> return false, word "not" *> word "in" *> return false,
    word "in" *> return true, word "is" *> word "not" *> return false, word "is" *> return false]

def comparison : Reader Expression := layer do
  let first ← rules .union
  let rest ← many (layer (layer (do return (← comparator, ← rules .union))))
  return match rest with
    | [] => first
    | (membership, e) :: rest =>
      .comparison first.line first membership (e :: rest.map (·.2))

def inversion : Reader Expression := do
  let start ← line
  choose [do
    word "not"
    return .other start "expression" [← rules .inversion], comparison rules]

/-- Two operands with a sign between them. -/
def combine (left : Expression) (sign : String) (right : Expression) : Expression :=
  if sign ∈ ["+", "-"] then .sum left.line left right
  else .other left.line "expression" [left, right]

/-- Operands of a level with signs between them, taken together from the left. -/
def grouped (signs : List String) (level : Rule) : Reader Expression := do
  let first ← rules level
  let rest ← repeatedly do return (← oneOf signs, ← rules level)
  return rest.foldl (fun left (s, right) => combine left s right) first

/-- An operand with signs before it. -/
def factor : Reader Expression := do
  let start ← line
  let power : Reader Expression := layer do
    let e ← rules .awaited
    orElse (do
      sign "**"
      return .other start "expression" [e, ← rules .factor]) (return e)
  let signed : Reader Expression := do
    let s ← oneOf ["+", "-", "~"]
    let e ← rules .factor
    return if s = "~" then .other start "expression" [e] else .signed start e
  choose [signed, power]

/-- A primary expression, which may be awaited. -/
def awaited : Reader Expression := do
  let start ← line
  choose [do
    word "await"
    return .other start "await expression" [← rules .primary], rules .primary]

end InstallerKit.Literal.Grammar
