import InstallerKit.Literal.Reader

/-!
# Texts with expressions

In a formatted text there are expressions in braces, each with an equals sign, a
conversion and a format after it if they are wanted. A format is a formatted text again,
but one in it has no expressions. Outside of formats, a doubled brace stands for
itself.
-/

namespace InstallerKit.Literal.Format

/-- A plain part of a text, and the rest. A `doubled` part ends in a brace that stood
    twice. -/
structure Plain where
  part : List Char
  rest : List Char
  doubled : Bool
  deriving DecidableEq, Repr

/-- A plain part with another character before it. -/
def Plain.after (c : Char) (p : Plain) : Plain := { p with part := c :: p.part }

def isBrace (c : Char) : Bool := c = '\x7b' || c = '\x7d'

/-- The plain part that a text starts with. The braces around the name of a character are
    part of it; `named` tells whether it is within such a name. -/
def plain (raw outer : Bool) : (named : Bool) → List Char → Except FormatFlaw Plain
  | _, [] => .ok ⟨[], [], false⟩
  | true, c :: cs => (Plain.after c) <$> plain raw outer (c ≠ '\x7d') cs
  | false, c :: cs =>
    if isBrace c then
      if outer && cs.head? = some c then .ok ⟨[c], cs.drop 1, true⟩
      else if outer && c = '\x7d' then .error .loneBrace
      else .ok ⟨[], c :: cs, false⟩
    else if raw || c ≠ '\\' then (Plain.after c) <$> plain raw outer false cs
    else
      match cs with
      | 'N' :: d :: cs =>
        (Plain.after c ∘ Plain.after 'N' ∘ Plain.after d) <$> plain raw outer (d = '\x7b') cs
      | d :: ds =>
        if isBrace d then (Plain.after c) <$> plain raw outer false (d :: ds)
        else (Plain.after c ∘ Plain.after d) <$> plain raw outer false ds
      | [] => .ok ⟨[c], [], false⟩

/-- A quoted text that is open: its mark, and whether it is tripled. -/
structure Quote where
  mark : Char
  tripled : Bool
  deriving DecidableEq, Repr

/-- The greatest number of open brackets. -/
def maxDepth : Nat := 200

def isOpening (c : Char) : Bool := c = '(' || c = '[' || c = '\x7b'

def isClosing (c : Char) : Bool := c = ')' || c = ']' || c = '\x7d'

/-- Whether a sign ends an expression outside of brackets, given what follows it. Signs of
    two characters that start like one do not. -/
def endsExpression (c : Char) (cs : List Char) : Bool :=
  c ∈ [':', '\x7d'] || (c ∈ ['!', '='] && cs.head? ≠ some '=')

/-- The length of the expression that a text starts with, after some characters to be
    skipped. -/
def expressionLength : (skip : Nat) → Option Quote → (opened : List Char) → List Char →
    Except FormatFlaw Nat
  | _, some _, _, [] => .error .openText
  | _, none, bracket :: _, [] => .error (.unmatched bracket)
  | _, none, [], [] => .error .openBrace
  | skip + 1, quote, opened, _ :: cs => (· + 1) <$> expressionLength skip quote opened cs
  | 0, quote, opened, c :: cs =>
    let isTripled := cs.take 2 = [c, c]
    let go (skip : Nat) (quote : Option Quote) (opened : List Char) :=
      (· + 1) <$> expressionLength skip quote opened cs
    if c = '\\' then .error .backslash
    else
      match quote with
      | some q =>
        if c ≠ q.mark then go 0 quote opened
        else if !q.tripled then go 0 none opened
        else if isTripled then go 2 none opened
        else go 0 quote opened
      | none =>
        if Token.isMark c then go (if isTripled then 2 else 0) (some ⟨c, isTripled⟩) opened
        else if isOpening c then
          if maxDepth ≤ opened.length then .error .brackets else go 0 none (c :: opened)
        else if c = '#' then .error .remark
        else if opened = [] && endsExpression c cs then .ok 0
        else if opened = [] && c ∈ ['!', '=', '<', '>'] then
          go (if cs.head? = some '=' then 1 else 0) none []
        else if isClosing c then
          match opened with
          | [] => .error (.unmatched c)
          | bracket :: opened =>
            if bracket = Token.opening c then go 0 none opened
            else .error (.mismatched c bracket)
        else go 0 quote opened

/-- Whether a character is a blank before an expression. -/
def isBlank (c : Char) : Bool := c ∈ [' ', '\t', '\n', '\x0c']

/-- Passes the equals sign and the conversion after an expression. -/
def afterSigns (cs : List Char) : Except FormatFlaw (List Char) :=
  let cs :=
    match cs with
    | '=' :: cs => cs.dropWhile fun c => isBlank c || c = '\x0b' || c = '\r'
    | cs => cs
  match cs with
  | ['!'] => .error .openBrace
  | '!' :: c :: cs => if c ∈ ['s', 'r', 'a'] then .ok cs else .error .conversion
  | cs => .ok cs

/-- Finds a flaw where there is one. -/
def orFlaw {α : Type} : Except FormatFlaw α → Reader α
  | .ok a => return a
  | .error f => Reader.complain (.format f)

section Parts

variable (quotation : Quotation) (inner : List Char → List Char → Reader Unit)

/-- Reads a text that is inside of some formats. An expression is read by `inner`, given
    what follows its brace, too. Answers the rest, which is empty or starts with a closing
    brace. -/
def parts : (fuel level : Nat) → List Char → Reader (List Char)
  | 0, _, cs => return cs
  | fuel + 1, level, cs => do
    let p ← orFlaw (plain quotation.raw (level = 0) false cs)
    match quotation.checkEscapes p.part with
    | .error c => Reader.complain c
    | .ok () =>
      if p.doubled then parts fuel level p.rest
      else
        match p.rest with
        | '\x7b' :: rest =>
          if 2 ≤ level then orFlaw (.error .depth)
          let count ← orFlaw (expressionLength 0 none [] rest)
          let after := rest.drop count
          if (rest.take count).all isBlank then
            orFlaw (.error (.empty (after.head?.filter (· ≠ '\x7d'))))
          inner rest (rest.take count)
          let after ← orFlaw (afterSigns after)
          let after ←
            match after with
            | ':' :: c :: cs => parts fuel (level + 1) (c :: cs)
            | after => pure after
          match after with
          | '\x7d' :: rest => parts fuel level rest
          | _ => orFlaw (.error .openBrace)
        | rest => if level ≠ 0 && rest = [] then orFlaw (.error .openBrace) else return rest

/-- Reads the formatted text between two quotation marks. Its expressions are read by
    `inner`, given the number of lines before them. -/
def read (quotation : Quotation) (inner : Nat → List Char → Reader Unit) (body : List Char) :
    Reader Unit := do
  let lines := body.count '\n'
  let _ ← parts quotation (fun rest e => inner (lines - rest.count '\n') e)
    (body.length + 1) 0 body

end Parts

end InstallerKit.Literal.Format
