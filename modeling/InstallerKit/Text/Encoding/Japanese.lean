import InstallerKit.Text.Charset.Gb2312
import InstallerKit.Text.Charset.JisX0208
import InstallerKit.Text.Charset.JisX0212
import InstallerKit.Text.Charset.JisX0213
import InstallerKit.Text.Charset.KsX1001
import InstallerKit.Text.Encoding.Stream

/-!
# Japanese encodings

There are three families. The *extended* ones keep ASCII apart from two bytes from 0xa1
on, with a byte in front for other sets. The *shifted* ones squeeze the rows between
the half-width kana. The *switching* ones use bytes below 0x80 alone, and announce each
change of the character set.

The extended character set of two planes is used in its first form or as amended. In
it, some pairs of characters have one code, except in the switching encodings.
-/

namespace InstallerKit.Text.Encoding

open Charset

namespace Kana

/-- The number of a half-width kana, from one on. -/
def number? (c : Char) : Option Nat :=
  if 0xff61 ≤ c.toNat ∧ c.toNat ≤ 0xff9f then some (c.toNat - 0xff60) else none

end Kana

namespace Planes

/-- The place of a character in the first plane, beyond JIS X 0208. -/
def first? (amended : Bool) (c : Char) : Option (Nat × Nat) :=
  jisX0213First.find? c <|> if amended then jisX0213Amended.find? c else none

/-- The place of a character in the second plane. One place has another form of the
    character since the amendment. -/
def second? (amended : Bool) (c : Char) : Option (Nat × Nat) :=
  if amended then
    if c = '\u9b1c' then some (93, 27)
    else if c = '\u9b1d' then none
    else jisX0213Second.find? c
  else jisX0213Second.find? c

/-- The place of a pair in the first plane. -/
def pair? (c : Char) (next : Option Char) : Option (Nat × Nat) := do
  let d ← next
  let (_, place) ← jisX0213Pairs.find? fun (p, _) => p.toList = [c, d]
  return place

end Planes

/-- A character set that the switching encodings announce. -/
inductive JapaneseSet
  | ascii
  /-- ASCII with a yen sign and an overline. -/
  | roman
  | kana
  | common
  | supplement
  | first (amended : Bool)
  | second (amended : Bool)
  | korean
  | chinese
  deriving DecidableEq, Repr

namespace JapaneseSet

/-- What announces a set. -/
def announcement (s : JapaneseSet) : List UInt8 :=
  0x1b :: match s with
    | ascii => octets [0x28, 0x42]
    | roman => octets [0x28, 0x4a]
    | kana => octets [0x28, 0x49]
    | common => octets [0x24, 0x42]
    | supplement => octets [0x24, 0x28, 0x44]
    | first amended => octets [0x24, 0x28, if amended then 0x51 else 0x4f]
    | second _ => octets [0x24, 0x28, 0x50]
    | korean => octets [0x24, 0x28, 0x43]
    | chinese => octets [0x24, 0x28, 0x41]

/-- The code of a place. -/
def code (place : Nat × Nat) : List UInt8 :=
  octets [0x20 + place.1, 0x20 + place.2]

/-- The bytes of a character in a set. -/
def bytes? (s : JapaneseSet) (c : Char) : Option (List UInt8) :=
  match s with
  | ascii => (asciiByte? c).map fun b => [b]
  | roman =>
    if c = '\u00a5' then some [0x5c]
    else if c = '\u203e' then some [0x7e]
    else none
  | kana => (Kana.number? c).map fun n => octets [0x20 + n]
  | common => (jisX0208.find? c).map code
  | supplement => (jisX0212.find? c).map code
  | first amended => (Planes.first? amended c).map code
  | second amended => (Planes.second? amended c).map code
  | korean => (ksX1001.find? c).map code
  | chinese => (gb2312.find? c).map code

end JapaneseSet

/-- A Japanese encoding. -/
inductive Japanese
  | extended
  /-- With the two planes. -/
  | extendedPlanes (amended : Bool)
  | shifted
  | windows932
  | shiftedPlanes (amended : Bool)
  /-- With the sets that may be announced, the preferred ones first. -/
  | switching (sets : List JapaneseSet)
  deriving DecidableEq, Repr

namespace Japanese

/-- The code of a place in the extended encodings. -/
def extendedCode (place : Nat × Nat) : List UInt8 :=
  octets [0xa0 + place.1, 0xa0 + place.2]

/-- The code of a place in another set, in the extended encodings. -/
def supplementCode (place : Nat × Nat) : List UInt8 :=
  0x8f :: extendedCode place

/-- The code of a place in the shifted encodings: two rows share a first byte, and the
    first bytes leave out those of the kana. -/
def shiftedCode (place : Nat × Nat) : List UInt8 :=
  let (row, cell) := place
  let line := (row - 1) / 2
  let column := (row - 1) % 2 * 94 + cell - 1
  octets [line + (if line < 31 then 0x81 else 0xc1), column + if column < 63 then 0x40 else 0x41]

/-- The yen sign and the overline, which have the bytes of two ASCII characters. -/
def romanByte? (c : Char) : Option UInt8 :=
  if c = '\u00a5' then some 0x5c else if c = '\u203e' then some 0x7e else none

/-- The bytes of a character in the extended encoding. -/
def extendedBytes? (c : Char) : Option (List UInt8) :=
  ((asciiByte? c <|> romanByte? c).map fun b => [b]) <|>
    ((Kana.number? c).map fun n => octets [0x8e, 0xa0 + n]) <|>
    ((jisX0208.find? c).map extendedCode) <|> ((jisX0212.find? c).map supplementCode)

/-- The bytes of a character in the extended encodings with the two planes. -/
def extendedPlanesBytes? (amended : Bool) (c : Char) : Option (List UInt8) :=
  ((asciiByte? c).map fun b => [b]) <|>
    ((Kana.number? c).map fun n => octets [0x8e, 0xa0 + n]) <|>
    ((Planes.first? amended c).map extendedCode) <|>
    ((Planes.second? amended c).map supplementCode) <|>
    if c = '\uff5e' then some (extendedCode (2, 18))
    else if !amended && (jisX0213Amended.find? c).isSome || c = '\u9b1c' || c = '\u9b1d' then none
    else ((jisX0208.find? c).map extendedCode) <|> ((jisX0212.find? c).map supplementCode)

/-- The rows of the second plane in the order of their codes in the shifted encodings,
    which follow those of the first plane. -/
def secondRows : List Nat :=
  [1, 8, 3, 4, 5, 12, 13, 14, 15] ++ (List.range 17).map (78 + ·)

/-- The byte of a half-width kana in the shifted encodings. -/
def kanaByte? (c : Char) : Option UInt8 :=
  (Kana.number? c).map fun n => .ofNat (0xa0 + n)

/-- The bytes of a character in the shifted encoding. -/
def shiftedBytes? (c : Char) : Option (List UInt8) :=
  ((asciiByte? c <|> romanByte? c <|> kanaByte? c).map fun b => [b]) <|>
    (jisX0208.find? c).map shiftedCode

/-- The bytes of a character in code page 932. There are rows for private use, and
    single bytes for five more characters. -/
def windowsBytes? (c : Char) : Option (List UInt8) :=
  let n := c.toNat
  ((asciiByte? c <|> kanaByte? c).map fun b => [b]) <|>
    if n = 0x80 then some [0x80]
    else if n = 0xf8f0 then some [0xa0]
    else if 0xf8f1 ≤ n ∧ n ≤ 0xf8f3 then some (octets [n - 0xf8f1 + 0xfd])
    else if 0xe000 ≤ n ∧ n < 0xe758 then
      some (shiftedCode (95 + (n - 0xe000) / 94, 1 + (n - 0xe000) % 94))
    else (windowsJapanese.find? c <|> jisX0208.find? c).map shiftedCode

/-- The bytes of a character in the shifted encodings with the two planes. There, the
    backslash and the tilde have two bytes. -/
def shiftedPlanesBytes? (amended : Bool) (c : Char) : Option (List UInt8) :=
  if c = '\\' then some (shiftedCode (1, 32))
  else if c = '~' then some (shiftedCode (2, 18))
  else
    ((asciiByte? c <|> romanByte? c <|> kanaByte? c).map fun b => [b]) <|>
      ((Planes.first? amended c).map shiftedCode) <|>
      ((Planes.second? amended c).map fun (row, cell) =>
        shiftedCode (95 + secondRows.idxOf row, cell)) <|>
      if c = '\uff3c' then none else (jisX0208.find? c).map shiftedCode

/-- A step that looks for pairs first. -/
def pairStep (code : Nat × Nat → List UInt8) (bytes? : Char → Option (List UInt8)) : Step Unit :=
  fun _ c next =>
    match Planes.pair? c next with
    | some place => some (code place, true, ())
    | none => (bytes? c).map fun bytes => (bytes, false, ())

/-- The step of a switching encoding; the state is the set that was announced last.
    ASCII is always among the sets. -/
def switchStep (sets : List JapaneseSet) : Step JapaneseSet := fun current c _ => do
  let (found, bytes) ← (JapaneseSet.ascii :: sets).findSome? fun s => (s.bytes? c).map (s, ·)
  return ((if found = current then [] else found.announcement) ++ bytes, false, found)

/-- The bytes of a text. -/
def encode (e : Japanese) (cs : List Char) : Except Lack (List UInt8) :=
  match e with
  | extended => stream (fixed extendedBytes?) false 0 () cs
  | extendedPlanes amended =>
    stream (pairStep extendedCode (extendedPlanesBytes? amended)) false 0 () cs
  | shifted => stream (fixed shiftedBytes?) false 0 () cs
  | windows932 => stream (fixed windowsBytes?) false 0 () cs
  | shiftedPlanes amended =>
    stream (pairStep shiftedCode (shiftedPlanesBytes? amended)) false 0 () cs
  | switching sets => stream (switchStep sets) false 0 .ascii cs

end Japanese

end InstallerKit.Text.Encoding
