import InstallerKit.Literal.Error
import InstallerKit.Text.CharacterName
import InstallerKit.Text.Hex

/-!
# Escapes in quoted texts

Between quotation marks, a backslash may start an escape: the number of a character in
two, four or eight hexadecimal digits, or its name. Positions in a text with escapes are
counted after every character beyond ASCII has been escaped by its number.

In bytes there are only ASCII characters, and numbers of two digits.
-/

namespace InstallerKit.Literal

/-- The way a text is quoted. -/
structure Quotation where
  bytes : Bool
  /-- Whether backslashes stand for themselves. -/
  raw : Bool
  /-- Whether there may be expressions in the text. -/
  formatted : Bool
  deriving DecidableEq, Repr

namespace Escape

/-- A text with every character beyond ASCII escaped by its number. A backslash before
    one, or at the end, is escaped as well. -/
def asciiOnly : List Char → List Char
  | [] => []
  | ['\\'] => "\\u005c".toList
  | '\\' :: c :: cs =>
    if c.toNat < 0x80 then '\\' :: c :: asciiOnly cs
    else "\\u005c\\U".toList ++ Text.hexPlaces 8 c.toNat ++ asciiOnly cs
  | c :: cs =>
    if c.toNat < 0x80 then c :: asciiOnly cs
    else '\\' :: 'U' :: Text.hexPlaces 8 c.toNat ++ asciiOnly cs

/-- The number of digits of an escape by number, and what is said if some are
    missing. -/
def numbered? : Char → Option (Nat × String)
  | 'x' => some (2, "truncated \\xXX escape")
  | 'u' => some (4, "truncated \\uXXXX escape")
  | 'U' => some (8, "truncated \\UXXXXXXXX escape")
  | _ => none

/-- Checks an escape at a position, given its letter and what follows. -/
def check (position : Nat) (letter : Char) (rest : List Char) : Except Complaint Unit :=
  match numbered? letter with
  | some (count, reason) =>
    let ds := (rest.take count).takeWhile Text.isHexDigit
    if ds.length < count then .error (.badEscape position (position + 1 + ds.length) reason)
    else if 0x10ffff < ds.foldl (fun n d => 16 * n + Text.hexValue d) 0 then
      .error (.badEscape position (position + 1 + count) "illegal Unicode character")
    else .ok ()
  | none =>
    let refuse (length : Nat) : Except Complaint Unit :=
      .error (.badEscape position (position + length - 1) "malformed \\N character escape")
    if letter ≠ 'N' then .ok ()
    else
      match rest with
      | '\x7b' :: name =>
        let inner := name.takeWhile (· ≠ '\x7d')
        if inner.length = name.length then refuse (3 + name.length)
        else if inner = [] then refuse 3
        else if Text.isCharacterName inner then .ok ()
        else
          .error (.badEscape position (position + 3 + inner.length)
            "unknown Unicode character name")
      | _ => refuse 2

/-- Checks the escapes of a text from a position on. -/
def checkAll (position : Nat) : List Char → Except Complaint Unit
  | '\\' :: c :: cs => do
    check position c cs
    checkAll (position + 2) cs
  | _ :: cs => checkAll (position + 1) cs
  | [] => .ok ()

/-- Checks the escapes of bytes from a position on. -/
def checkBytes (position : Nat) : List Char → Except Complaint Unit
  | '\\' :: c :: cs =>
    if c = 'x' && !((cs.take 2).length = 2 && (cs.take 2).all Text.isHexDigit) then
      .error (.badByteEscape position)
    else checkBytes (position + 2) cs
  | _ :: cs => checkBytes (position + 1) cs
  | [] => .ok ()

end Escape

/-- Checks the escapes in a part of a text. -/
def Quotation.checkEscapes (q : Quotation) (part : List Char) : Except Complaint Unit :=
  if q.raw || !part.contains '\\' then .ok ()
  else if q.bytes then Escape.checkBytes 0 part
  else Escape.checkAll 0 (Escape.asciiOnly part)

/-- Checks what is between quotation marks, unless there may be expressions in it. -/
def Quotation.check (q : Quotation) (body : List Char) : Except Complaint Unit :=
  if q.formatted then .ok ()
  else if q.bytes && body.any fun c => 0x80 ≤ c.toNat then .error .wideByte
  else q.checkEscapes body

end InstallerKit.Literal
