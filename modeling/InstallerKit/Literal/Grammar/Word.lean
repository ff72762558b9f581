import InstallerKit.Literal.Reader
import InstallerKit.Text.Normal

/-!
# Words in expressions

Most words are names. Names that differ in compatible characters only are the same; but a
keyword is one as it is written.
-/

namespace InstallerKit.Literal.Grammar

open Reader

/-- The words that are no names. -/
def keywords : List String :=
  ["False", "None", "True", "and", "as", "assert", "async", "await", "break", "class", "continue",
    "def", "del", "elif", "else", "except", "finally", "for", "from", "global", "if", "import",
    "in", "is", "lambda", "nonlocal", "not", "or", "pass", "raise", "return", "try", "while",
    "with", "yield"]

/-- The keywords that stand for values. -/
def constants : List String := ["True", "False", "None"]

/-- The names that have a meaning of their own where a statement starts. -/
def softKeywords : List String := ["_", "case", "match"]

/-- The names of functions that used to be called without parentheses. -/
def bareFunctions : List String := ["print", "exec"]

/-- A name, in its compatible form. -/
def name : Reader String := do
  match (← next).token with
  | .word cs =>
    if String.ofList cs ∈ keywords then fail
    else pass *> return .ofList (Text.Normal.Edition.current.form cs)
  | _ => fail

/-- A name that has a meaning of its own elsewhere. -/
def softKeyword : Reader Unit := do
  match (← next).token with
  | .word cs => if String.ofList cs ∈ softKeywords then pass else fail
  | _ => fail

/-- A keyword that stands for a value. -/
def constant : Reader String := do
  match (← next).token with
  | .word cs =>
    let s := String.ofList cs
    if s ∈ constants then pass *> return s else fail
  | _ => fail

/-- A quoted text. -/
def quoted : Reader (Quotation × List Char × Nat) := do
  let t ← next
  match t.token with
  | .quoted q body => pass *> return (q, body, t.line)
  | _ => fail

end InstallerKit.Literal.Grammar
