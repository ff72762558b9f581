import InstallerKit.Literal.Grammar.Condition
import InstallerKit.Literal.Grammar.Target
import InstallerKit.Literal.Reading

/-!
# The grammar of expressions

The rules of the grammar are tied together here: each is given all of them, with less fuel
for the depth.
-/

namespace InstallerKit.Literal.Grammar

open Reader

/-- What a rule reads, given all rules. Expressions in a text are read by `inner`, given
    their line. -/
def rule (rules : Rule → Reader Expression) (inner : Nat → List Char → Reader Unit)
    (r : Rule) : Reader Expression := fun s place m =>
  let reader : Reader Expression :=
    match r with
    | .expression => expression rules
    | .starExpression => starExpression rules
    | .disjunction => disjunction rules
    | .conjunction => conjunction rules
    | .inversion => inversion rules
    | .union => layer (grouped rules ["|"] .exclusion)
    | .exclusion => layer (grouped rules ["^"] .intersection)
    | .intersection => layer (grouped rules ["&"] .shift)
    | .shift => layer (grouped rules ["<<", ">>"] .sum)
    | .sum => layer (grouped rules ["+", "-"] .term)
    | .term => layer (grouped rules ["*", "/", "//", "%", "@"] .factor)
    | .factor => factor rules
    | .awaited => awaited rules
    | .primary => layer (primary rules)
    | .texts => quotedTexts inner
    | .target => target rules
    | .place => targetPlace rules
    | .base => layer (targetBase rules)
    | .namingSlip => namingSlip rules
  reader s place m

/-- What a text that starts on a line has in it, inside of another text. -/
def readInner (rules : Rule → Reader Expression) (line : Nat) (cs : List Char) :
    Reader Unit := fun _ place m =>
  match Reading.read (tupleOr rules .starExpression) true line ('(' :: cs ++ [')', '\n']) with
  | .ok _ => .done () place m
  | .error f => .fault f m.seen

/-- What a rule reads. -/
def read : (fuel : Nat) → Rule → Reader Expression
  | 0, _ => stop .tooDeep
  | fuel + 1, r => fun s place m =>
    layer (keeping r (rule (read fuel) (readInner (read fuel)) r)) s place m

/-- The depth of rules that is enough for all texts. Texts are at most four deep inside of
    each other, for there are not more quotation marks. -/
def maxFuel : Nat := 6 * maxDepth

/-- A whole text: an expression, or several ones with commas between. -/
def whole : Reader Expression := layer do
  let e ← tupleOr (read maxFuel) .expression
  let _ ← many do if (← next).token = .newline then pass else fail
  if (← next).token ≠ .stop then fail
  return e

end InstallerKit.Literal.Grammar
