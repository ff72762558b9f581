import InstallerKit.Literal.Escape
import InstallerKit.Literal.Numeral
import InstallerKit.Text.Identifier
import InstallerKit.Text.Pieces

/-!
# Tokens

A text falls into words, numerals, quoted texts and signs, with blanks and remarks
between. Lines and their indentation count outside of brackets only. The first fault ends
the tokens, and so does the end of the text, which is a fault where a bracket is open.
-/

namespace InstallerKit.Literal

/-- A piece of a text. -/
inductive Token
  | word (cs : List Char)
  | number (n : Numeral)
  | quoted (q : Quotation) (body : List Char)
  | sign (s : String)
  | newline
  | indent
  | dedent
  | stop
  /-- No token, inside of some bracket on a line. An `evident` fault counts even if
      something else is wrong before it. -/
  | fault (c : Complaint) (evident : Bool) (inner : Option (Char × Nat))
  deriving DecidableEq, Repr

/-- A token and where it is. -/
structure Placed where
  token : Token
  line : Nat
  /-- How many brackets are open after it. -/
  depth : Nat
  /-- Whether the end of the text was found when it was read. -/
  final : Bool
  deriving DecidableEq, Repr

namespace Token

/-- Whether a character may be part of a word. Other characters beyond ASCII are read as
    if they were, and refused then. -/
def joinsWord (c : Char) : Bool :=
  c.isAlphanum || c = '_' || 0x80 ≤ c.toNat

/-- How the letters before a quotation mark ask for a text to be read. -/
def quotation? (letters : List Char) : Option Quotation :=
  match letters.map Char.toLower with
  | [] | ['u'] => some ⟨false, false, false⟩
  | ['b'] => some ⟨true, false, false⟩
  | ['r'] => some ⟨false, true, false⟩
  | ['f'] => some ⟨false, false, true⟩
  | ['b', 'r'] | ['r', 'b'] => some ⟨true, true, false⟩
  | ['f', 'r'] | ['r', 'f'] => some ⟨false, true, true⟩
  | _ => none

def isMark (c : Char) : Bool := c = '"' || c = '\''

/-- The beginning of a quoted text: how it is read, its mark, and what comes after it. -/
def quotedStart? (cs : List Char) : Option (Quotation × Char × List Char) :=
  [0, 1, 2].findSome? fun n =>
    match quotation? (cs.take n), cs.drop n with
    | some q, mark :: rest => if isMark mark then some (q, mark, rest) else none
    | _, _ => none

/-- The text up to some closing marks, and what comes after them. None if they are
    missing. Unless it has `lines`, it ends before the end of a line. -/
def quotedBody? (closing : List Char) (lines : Bool) : List Char → Option (List Char × List Char)
  | [] => none
  | c :: cs =>
    if closing.isPrefixOf (c :: cs) then some ([], (c :: cs).drop closing.length)
    else if c = '\n' && !lines then none
    else
      match c, cs with
      | '\\', d :: cs =>
        (quotedBody? closing lines cs).map fun (body, rest) => ('\\' :: d :: body, rest)
      | c, cs => (quotedBody? closing lines cs).map fun (body, rest) => (c :: body, rest)

/-- How many lines of a text are passed before a quoted text in it has to end. -/
def linesBefore (lines : Bool) : List Char → Nat
  | [] | ['\n'] | ['\\', '\n'] => 0
  | '\\' :: '\n' :: cs => linesBefore lines cs + 1
  | '\\' :: _ :: cs => linesBefore lines cs
  | '\n' :: cs => if lines then linesBefore lines cs + 1 else 0
  | _ :: cs => linesBefore lines cs

/-- A quoted text after its first mark. -/
def readQuoted (line : Nat) (q : Quotation) (mark : Char) (cs : List Char) :
    Except Complaint (Token × List Char) :=
  let lines := cs.take 2 = [mark, mark]
  let closing := if lines then [mark, mark, mark] else [mark]
  let cs := if lines then cs.drop 2 else cs
  match quotedBody? closing lines cs with
  | some (body, rest) => .ok (.quoted q body, rest)
  | none => .error (.openText lines (line + linesBefore lines cs))

/-- The signs of several characters, the longest ones first. -/
def longSigns : List String :=
  ["**=", "//=", "<<=", ">>=", "...", "!=", "%=", "&=", "**", "*=", "+=", "-=", "->", "//", "/=",
    ":=", "<<", "<=", "<>", "==", ">=", ">>", "@=", "^=", "|="]

/-- A sign. -/
def readSign (c : Char) (cs : List Char) : Token × List Char :=
  match longSigns.find? fun s => s.toList.isPrefixOf (c :: cs) with
  | some s => (.sign s, cs.drop (s.length - 1))
  | none => (.sign c.toString, cs)

/-- A token that is no bracket. -/
def read (line : Nat) (c : Char) (cs : List Char) : Except Complaint (Token × List Char) :=
  match quotedStart? (c :: cs) with
  | some (q, mark, rest) => readQuoted line q mark rest
  | none =>
    if c.isDigit || (c = '.' && cs.head?.any Char.isDigit) then
      (if c = '.' then Numeral.readPlaces cs else Numeral.read (c :: cs)).map fun (n, rest) =>
        (.number n, rest)
    else if joinsWord c then
      let word := (c :: cs).takeWhile joinsWord
      match Text.misplaced? word with
      | some d => .error (.badCharacter d)
      | none => .ok (.word word, (c :: cs).drop word.length)
    else if Text.isPrintable c then .ok (readSign c cs)
    else .error (.badCharacter c)

/-- Whether a token is known only when the character after it has been looked at. -/
def looksAhead : Token → Bool
  | quoted _ _ => false
  | sign s => s.length < 3
  | _ => true

/-- The number of lines that end in a token. -/
def lines : Token → Nat
  | quoted _ body => body.count '\n'
  | _ => 0

/-- The bracket that a closing one belongs to. -/
def opening : Char → Char
  | ')' => '('
  | ']' => '['
  | _ => '\x7b'

/-- The greatest number of open brackets. -/
def maxDepth : Nat := 200

/-- The width of some blanks at the beginning of a line: with tabs to the next multiple of
    eight, and with tabs like blanks. -/
structure Margin where
  width : Nat
  narrow : Nat
  deriving DecidableEq, Repr

/-- The beginning of a line that goes on from there: its number, its margin, and its rest. -/
structure LineStart where
  line : Nat
  margin : Margin
  rest : List Char

/-- Passes the blanks at the beginning of a line. A backslash at the end of a line joins the
    next one to it, and the margin before the first backslash counts if there is any. A
    complaint comes with its line. -/
def lineStart (line : Nat) (m : Margin) (before : Nat) :
    List Char → Except (Complaint × Nat) LineStart
  | [] => .ok ⟨line, if before = 0 then m else ⟨before, before⟩, []⟩
  | ' ' :: cs => lineStart line ⟨m.width + 1, m.narrow + 1⟩ before cs
  | '\t' :: cs => lineStart line ⟨(m.width / 8 + 1) * 8, m.narrow + 1⟩ before cs
  | '\x0c' :: cs => lineStart line ⟨0, 0⟩ before cs
  | '\\' :: '\n' :: c :: cs =>
    lineStart (line + 1) m (if before = 0 then m.width else before) (c :: cs)
  | ['\\', '\n'] => .error (.unexpectedEnd, line)
  | '\\' :: _ => .error (.afterBackslash, line)
  | c :: cs => .ok ⟨line, if before = 0 then m else ⟨before, before⟩, c :: cs⟩

/-- The margins of the lines around one with a margin, and the tokens that tell how it
    differs from the line before. -/
def indentation (margins : List Margin) (m : Margin) :
    Except Complaint (List Margin × List Token) :=
  let last := margins.head?.getD ⟨0, 0⟩
  if m.width = last.width then
    if m.narrow = last.narrow then .ok (margins, []) else .error .mixedIndent
  else if last.width < m.width then
    if last.narrow < m.narrow then .ok (m :: margins, [.indent]) else .error .mixedIndent
  else
    let outer := margins.dropWhile fun n => m.width < n.width
    let same := outer.head?.getD ⟨0, 0⟩
    if m.width ≠ same.width then .error .unevenIndent
    else if m.narrow ≠ same.narrow then .error .mixedIndent
    else .ok (outer, List.replicate (margins.length - outer.length) .dedent)

/-- The tokens of a text from a line on, inside of some open brackets, each with its
    line, after lines with some margins. `fresh` tells whether the line has not begun. -/
def readAll : (fuel : Nat) → (line : Nat) → (fresh : Bool) → (opened : List (Char × Nat)) →
    (margins : List Margin) → List Char → List Placed
  | 0, _, _, _, _, _ => []
  | fuel + 1, line, fresh, opened, margins, cs =>
    let placed (t : Token) (rest : List Char) : Placed :=
      ⟨t, line, opened.length, rest = [] && t.looksAhead⟩
    let halt (c : Complaint) (evident : Bool) (line : Nat) : List Placed :=
      let c := match c, opened with
        | .unexpectedEnd, (bracket, first) :: _ => .openBracket bracket first
        | c, _ => c
      [⟨.fault c evident opened.head?, line, opened.length, true⟩]
    match fresh, cs with
    | true, [] => readAll fuel (line - 1) false opened margins []
    | true, cs =>
      match lineStart line ⟨0, 0⟩ 0 cs with
      | .error (c, place) => halt c false place
      | .ok start =>
        if opened ≠ [] then readAll fuel start.line false opened margins start.rest
        else if start.rest.head?.any fun c => c = '\n' || c = '#' then
          match start.rest.dropWhile (· ≠ '\n') with
          | [] => readAll fuel start.line false [] margins []
          | _ :: rest => readAll fuel (start.line + 1) true [] margins rest
        else
          match indentation margins start.margin with
          | .error c => halt c false start.line
          | .ok (margins, ts) =>
            ts.map (⟨·, start.line, 0, start.rest = []⟩) ++
              readAll fuel start.line false [] margins start.rest
    | false, [] =>
      if opened = [] then [placed .stop []] else halt .unexpectedEnd false line
    | false, c :: cs =>
      if c = ' ' || c = '\t' || c = '\x0c' then readAll fuel line false opened margins cs
      else if c = '#' then readAll fuel line false opened margins (cs.dropWhile (· ≠ '\n'))
      else if c = '\n' then
        (if opened = [] then [⟨.newline, line, 0, false⟩] else []) ++
          readAll fuel (line + 1) true opened margins cs
      else if c = '\\' then
        match cs with
        | '\n' :: d :: rest => readAll fuel (line + 1) false opened margins (d :: rest)
        | ['\n'] => halt .unexpectedEnd false line
        | _ => halt .afterBackslash false line
      else if c = '(' || c = '[' || c = '\x7b' then
        if maxDepth ≤ opened.length then halt .nesting true line
        else ⟨.sign c.toString, line, opened.length + 1, cs = []⟩ ::
          readAll fuel line false ((c, line) :: opened) margins cs
      else if c = ')' || c = ']' || c = '\x7d' then
        match opened with
        | [] => halt (.unmatched c) true line
        | (bracket, first) :: outer =>
          if bracket = opening c then
            ⟨.sign c.toString, line, outer.length, cs = []⟩ ::
              readAll fuel line false outer margins cs
          else halt (.mismatched c bracket (if first = line then none else some first)) true line
      else
        match read line c cs with
        | .error e => halt e true line
        | .ok (t, rest) => placed t rest :: readAll fuel (line + t.lines) false opened margins rest

/-- The tokens of a text that starts on a line. -/
def tokens (line : Nat) (cs : List Char) : List Placed :=
  readAll (2 * cs.length + 2) line true [] [] cs

end Token

end InstallerKit.Literal
