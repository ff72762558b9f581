import InstallerKit.Literal.Format
import InstallerKit.Literal.Grammar.Argument
import InstallerKit.Literal.Grammar.Bracket

/-!
# Primary expressions

A primary expression is a name, a value, or brackets, with the names of its parts and the
arguments of its calls after it.
-/

namespace InstallerKit.Literal.Grammar

open Reader

variable (rules : Rule → Reader Expression)

/-- Checks quoted texts that are next to each other, `bytes` or not as the one before them
    is. Expressions in a text are read by `inner`, given their line. -/
def checkQuoted (inner : Nat → List Char → Reader Unit) :
    (bytes : Option Bool) → List (Quotation × List Char × Nat) → Reader Unit
  | _, [] => return ()
  | bytes, (q, body, start) :: texts => do
    match q.check body with
    | .error .wideByte => slip .wideByte start
    | .error c => complain c
    | .ok () =>
      if bytes.any (· ≠ q.bytes) then complain .mixed
      if q.formatted then Format.read q (fun lines e => inner (start + lines) e) body
      checkQuoted inner (some q.bytes) texts

/-- Quoted texts that are next to each other. -/
def quotedTexts (inner : Nat → List Char → Reader Unit) : Reader Expression := do
  let start ← line
  let texts ← atLeastOne quoted
  checkQuoted inner none texts
  return if texts.any fun (q, _) => q.formatted then .formatted start else .text start

/-- An expression that has no parts outside of brackets. -/
def atom : Reader Expression := layer do
  let t ← next
  match t.token with
  | .word _ =>
    choose [Expression.name t.line <$> name, Expression.constant t.line <$> constant]
  | .quoted _ _ => rules .texts
  | .number n =>
    if n.isLong then slip (.longNumeral n.digits.length) t.line
    pass *> return .number t.line n
  | .sign "(" => parenthesized rules
  | .sign "\x7b" => braced rules
  | .sign "..." => pass *> return .constant t.line "..."
  | _ => fail

/-- What may follow an expression. -/
inductive Trailer
  | part
  /-- The arguments of a call, or none. -/
  | call (bare : Bool)

/-- An expression with something after it. -/
def Trailer.apply (e : Expression) : Trailer → Expression
  | part => .other e.line "attribute" [e]
  | call bare => .call e.line e bare

/-- The name of a part. -/
def part : Reader Trailer := sign "." *> name *> return .part

/-- Arguments after an expression. -/
def call : Reader Trailer :=
  choose [generator rules *> return .call false, do
    let as ← sign "(" *> optional (arguments rules) <* sign ")"
    return .call ((as.getD []).isEmpty)]

def primary : Reader Expression := do
  let e ← atom rules
  let trailers ← repeatedly (choose [part, call rules])
  return trailers.foldl Trailer.apply e

end InstallerKit.Literal.Grammar
