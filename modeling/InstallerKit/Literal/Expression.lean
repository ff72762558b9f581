import InstallerKit.Literal.Error
import InstallerKit.Literal.Numeral

/-!
# Expressions

The expressions that a literal may be taken from, as far as it matters which values
they are and how a complaint names them. Each knows the line that it starts on.

The value of a plain expression is not computed; it only matters whether there is one,
and whether it may change. What may change is no member of a set and no key.
-/

namespace InstallerKit.Literal

/-- An expression. -/
inductive Expression
  | name (line : Nat) (s : String)
  /-- A value that is named by a word or a sign. -/
  | constant (line : Nat) (word : String)
  | number (line : Nat) (n : Numeral)
  | text (line : Nat)
  | formatted (line : Nat)
  /-- A plus or a minus before an expression. -/
  | signed (line : Nat) (operand : Expression)
  /-- A sum or a difference. -/
  | sum (line : Nat) (left right : Expression)
  | tuple (line : Nat) (members : List Expression)
  | set (line : Nat) (members : List Expression)
  /-- Keys and values; without a key, the entries of another table. -/
  | dict (line : Nat) (entries : List (Option Expression × Expression))
  /-- A call; a `bare` one has no arguments. -/
  | call (line : Nat) (function : Expression) (bare : Bool)
  | starred (line : Nat) (value : Expression)
  /-- A comparison; a `membership` is one that starts with `in`. -/
  | comparison (line : Nat) (left : Expression) (membership : Bool) (rest : List Expression)
  /-- Another expression, by the name of its kind, around some others. -/
  | other (line : Nat) (kind : String) (parts : List Expression)
  deriving Repr

namespace Expression

/-- The line that an expression starts on. -/
def line : Expression → Nat
  | name line _ | constant line _ | number line _ | text line | formatted line => line
  | signed line _ | sum line _ _ | tuple line _ | set line _ | dict line _ => line
  | call line _ _ | starred line _ | comparison line _ _ _ | other line _ _ => line

/-- The name of the kind of an expression in a complaint. -/
def kind : Expression → String
  | name _ _ => "name"
  | constant _ word => if word = "..." then "ellipsis" else word
  | number _ _ | text _ => "literal"
  | formatted _ => "f-string expression"
  | signed _ _ | sum _ _ _ => "expression"
  | tuple _ _ => "tuple"
  | set _ _ => "set display"
  | dict _ _ => "dict literal"
  | call _ _ _ => "function call"
  | starred _ _ => "starred"
  | comparison _ _ _ _ => "comparison"
  | other _ kind _ => kind

mutual

/-- How many expressions are inside each other. -/
def depth : Expression → Nat
  | signed _ e | call _ e _ | starred _ e => e.depth + 1
  | comparison _ left _ rest => max left.depth (depthAll rest) + 1
  | sum _ left right => max left.depth right.depth + 1
  | tuple _ es | set _ es | other _ _ es => depthAll es + 1
  | dict _ entries => depthEntries entries + 1
  | _ => 1

def depthAll : List Expression → Nat
  | [] => 0
  | e :: es => max e.depth (depthAll es)

def depthEntries : List (Option Expression × Expression) → Nat
  | [] => 0
  | (none, e) :: entries => max e.depth (depthEntries entries)
  | (some k, e) :: entries => max (max k.depth e.depth) (depthEntries entries)

end

/-- The number that an expression is. -/
def number? : Expression → Except Error Numeral
  | number _ n => .ok n
  | e => .error (.value e.line)

/-- The number that an expression is, with a sign or without. -/
def signedNumber? : Expression → Except Error Numeral
  | signed _ e => e.number?
  | e => e.number?

/-- Checks that a sum on a line makes a complex number. -/
def checkSum (line : Nat) (left right : Expression) : Except Error Unit := do
  let l ← left.signedNumber?
  let r ← right.number?
  if l.imaginary || !r.imaginary then throw (.value line)
  if l.isHuge then throw .hugeNumber

mutual

/-- Checks that an expression has a plain value. Answers the kind of what may change in
    it. -/
def check : Expression → Except Error (Option String)
  | constant _ _ | number _ _ | text _ => .ok none
  | signed _ e => e.number?.map fun _ => none
  | sum line left right => (checkSum line left right).map fun _ => none
  | tuple _ members => checkAll members
  | set _ members => (checkMembers members).map fun _ => some "set"
  | dict _ entries => (checkEntries entries).map fun _ => some "dict"
  | call line (name _ f) bare =>
    if f = "set" && bare then .ok (some "set") else .error (.value line)
  | e => .error (.value e.line)

/-- Checks the members of a tuple, which may change if one of them may. -/
def checkAll : List Expression → Except Error (Option String)
  | [] => .ok none
  | e :: es => do
    let first ← check e
    let rest ← checkAll es
    return first <|> rest

/-- Checks the members of a set. -/
def checkMembers : List Expression → Except Error Unit
  | [] => .ok ()
  | e :: es => do
    match ← check e with
    | some kind => throw (.changeable kind)
    | none => checkMembers es

/-- Checks the entries of a table. -/
def checkEntries : List (Option Expression × Expression) → Except Error Unit
  | [] => .ok ()
  | (none, _) :: _ => .error .unpacked
  | (some key, value) :: entries => do
    let keyKind ← check key
    let _ ← check value
    match keyKind with
    | some kind => throw (.changeable kind)
    | none => checkEntries entries

end

end Expression

end InstallerKit.Literal
