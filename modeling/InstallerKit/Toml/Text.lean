import InstallerKit.Text.Hex
import InstallerKit.Toml.Basic

/-!
# Texts and keys

A text stands between quotation marks or between apostrophes. Between quotation
marks a backslash begins an escape; between apostrophes everything stands for
itself. Three marks open a text of several lines, which three marks close, and
one or two more that follow belong to the text. A line feed right after the
opening marks does not.

A key is a chain of texts with full stops between; a text of harmless characters
needs no marks there.
-/

namespace InstallerKit.Toml

/-- The character of a code point of `count` hexadecimal digits. -/
def readCodePoint (count : Nat) (cs : List Char) : Except Error (List Char × List Char) :=
  let digits := cs.take count
  let n := digits.foldl (fun n c => 16 * n + Text.hexValue c) 0
  if digits.length = count && digits.all Text.isHexDigit && n.isValidChar then
    .ok ([.ofNat n], cs.drop count)
  else .error .malformed

/-- What an escape stands for; `cs` follows its backslash. In a text of several
    lines, a backslash at the end of a line stands for nothing and takes the blank
    lines and spaces after it away. -/
def readEscape (lines : Bool) (cs : List Char) : Except Error (List Char × List Char) :=
  match cs with
  | [] => .error .malformed
  | c :: rest =>
    if lines && (isSpace c || c = '\n') then
      match skipSpace cs with
      | [] => .ok ([], [])
      | '\n' :: rest => .ok ([], rest.dropWhile fun d => isSpace d || d = '\n')
      | _ => .error .malformed
    else
      match c with
      | 'u' => readCodePoint 4 rest
      | 'U' => readCodePoint 8 rest
      | 'b' => .ok (['\x08'], rest)
      | 't' => .ok (['\t'], rest)
      | 'n' => .ok (['\n'], rest)
      | 'f' => .ok (['\x0c'], rest)
      | 'r' => .ok (['\r'], rest)
      | '"' => .ok (['"'], rest)
      | '\\' => .ok (['\\'], rest)
      | _ => .error .malformed

/-- The rest of a text between quotation marks, of at most `fuel` characters and
    escapes. -/
def readQuotedFrom (lines : Bool) : (fuel : Nat) → List Char → Except Error (List Char × List Char)
  | 0, _ => .error .malformed
  | _, [] => .error .malformed
  | fuel + 1, c :: cs =>
    let literally : Except Error (List Char × List Char) := do
      let (text, rest) ← readQuotedFrom lines fuel cs
      return (c :: text, rest)
    if c = '"' then
      if !lines then .ok ([], cs)
      else
        match cs with
        | '"' :: '"' :: rest => .ok ([], rest)
        | _ => literally
    else if c = '\\' then do
      let (piece, rest) ← readEscape lines cs
      let (text, rest) ← readQuotedFrom lines fuel rest
      return (piece ++ text, rest)
    else if isIllegal c && !(lines && c = '\n') then .error .malformed
    else literally

/-- The rest of a text between quotation marks. -/
def readQuoted (lines : Bool) (cs : List Char) : Except Error (List Char × List Char) :=
  readQuotedFrom lines (cs.length + 1) cs

/-- The rest of a text between apostrophes. -/
def readPlain (cs : List Char) : Except Error (List Char × List Char) :=
  let text := cs.takeWhile (· ≠ '\'')
  match cs.drop text.length with
  | _ :: rest => if text.any isIllegal then .error .malformed else .ok (text, rest)
  | [] => .error .malformed

/-- The rest of a text of several lines between apostrophes. -/
def readPlainLines : List Char → Except Error (List Char × List Char)
  | '\'' :: '\'' :: '\'' :: rest => .ok ([], rest)
  | c :: cs =>
    if isIllegal c && c ≠ '\n' then .error .malformed
    else do
      let (text, rest) ← readPlainLines cs
      return (c :: text, rest)
  | [] => .error .malformed

/-- A text of several lines with the one or two marks that follow it. -/
def withMarks (mark : Char) (text rest : List Char) : List Char × List Char :=
  let extra := ((rest.take 2).takeWhile (· = mark))
  (text ++ extra, rest.drop extra.length)

/-- The text without a line feed at its start. -/
def dropLineFeed : List Char → List Char
  | '\n' :: cs => cs
  | cs => cs

/-- A text, if there is one. -/
def readText? : List Char → Option (Except Error (String × List Char))
  | '"' :: '"' :: '"' :: cs => some do
    let (text, rest) ← readQuoted true (dropLineFeed cs)
    let (text, rest) := withMarks '"' text rest
    return (.ofList text, rest)
  | '\'' :: '\'' :: '\'' :: cs => some do
    let (text, rest) ← readPlainLines (dropLineFeed cs)
    let (text, rest) := withMarks '\'' text rest
    return (.ofList text, rest)
  | '"' :: cs => some do
    let (text, rest) ← readQuoted false cs
    return (.ofList text, rest)
  | '\'' :: cs => some do
    let (text, rest) ← readPlain cs
    return (.ofList text, rest)
  | _ => none

/-- The characters of a key without marks. -/
def isBare (c : Char) : Bool :=
  c.isAlphanum || c = '-' || c = '_'

/-- Whether a character may start a key. -/
def startsKey (c : Char) : Bool :=
  isBare c || c = '"' || c = '\''

/-- A part of a key. -/
def readKeyPart (cs : List Char) : Except Error (String × List Char) :=
  match cs with
  | '"' :: rest => do
    let (text, rest) ← readQuoted false rest
    return (.ofList text, rest)
  | '\'' :: rest => do
    let (text, rest) ← readPlain rest
    return (.ofList text, rest)
  | _ =>
    let text := cs.takeWhile isBare
    if text.isEmpty then .error .malformed else .ok (.ofList text, cs.drop text.length)

/-- A key of at most `fuel` parts, and the spaces after it. -/
def readKeyFrom : (fuel : Nat) → List Char → Except Error (List String × List Char)
  | 0, _ => .error .malformed
  | fuel + 1, cs => do
    let (part, rest) ← readKeyPart cs
    match skipSpace rest with
    | '.' :: rest =>
      let (parts, rest) ← readKeyFrom fuel (skipSpace rest)
      return (part :: parts, rest)
    | rest => return ([part], rest)

/-- A key, and the spaces after it. -/
def readKey (cs : List Char) : Except Error (List String × List Char) :=
  readKeyFrom (cs.length + 1) cs

end InstallerKit.Toml
