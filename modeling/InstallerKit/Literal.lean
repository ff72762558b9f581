import InstallerKit.Literal.Grammar
import InstallerKit.Text.Pieces

/-!
# Literals

A literal is a value in writing: a number, a quoted text or bytes, one of some words, or
parentheses or braces with literals in them. Only whether a text is a literal matters here,
and what to say if it is not.
-/

namespace InstallerKit.Literal

/-- The greatest number of expressions inside each other. -/
def maxNesting : Nat := 2960

/-- The expression that a text is. -/
def read (cs : List Char) : Except Error Expression :=
  if cs.contains '\x00' then .error .nullCharacter
  else
    match Reading.read Grammar.whole false 1 (Text.unifyLineEnds cs) with
    | .ok e => if maxNesting ≤ e.depth then .error .deepExpression else .ok e
    | .error (.slip c line) | .error (.token c line) => .error (.form c line)
    | .error .tooDeep => .error .tooDeep

/-- Checks that a text is a literal. -/
def check (cs : List Char) : Except Error Unit := do
  let e ← read cs
  let _ ← e.check

end InstallerKit.Literal
