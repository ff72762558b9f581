import InstallerKit.Text.Charset.Big5
import InstallerKit.Text.Charset.Gb2312
import InstallerKit.Text.Charset.Gbk
import InstallerKit.Text.Charset.Hkscs
import InstallerKit.Text.Encoding.Stream

/-!
# Chinese encodings

All of them write ASCII as it is. Those for simplified characters extend each other:
GB 2312 by GBK, with more second bytes, and that by GB 18030, in which every character
has a code, of four bytes if there is no place for it in two. Those for traditional
characters extend Big5, each in its own way.
-/

namespace InstallerKit.Text.Encoding

open Charset

/-- A Chinese encoding. -/
inductive Chinese
  | gb2312
  | gbk
  | gb18030
  /-- GB 2312 in bytes below 0x80, with shifts to it and back. -/
  | shifting
  | big5
  | windows950
  | hongKong
  deriving DecidableEq, Repr

namespace Chinese

/-- Two bytes from 0xa1 on for a character of GB 2312. -/
def simplified? (c : Char) : Option (List UInt8) :=
  (Charset.gb2312.find? c).map fun (row, cell) => octets [0xa0 + row, 0xa0 + cell]

/-- The code of a place among 190 in a row. The byte 0x7f is left out. -/
def wideCode (row cell : Nat) : List UInt8 :=
  octets [0x80 + row, cell + if cell < 64 then 0x3f else 0x40]

/-- Two bytes for a character of GBK, which leaves out one sign of GB 2312 and moves
    another one. -/
def extended? (c : Char) : Option (List UInt8) :=
  ((Charset.gbk.find? c).map fun (row, cell) => wideCode row cell) <|>
    if c = '\u30fb' then none else simplified? c

/-- The place of a character for private use. The areas for users come first: six rows
    of the last 94 cells, seven of these, and seven rows of the first 96. -/
def privatePlace? (c : Char) : Option (Nat × Nat) :=
  let n := c.toNat - 0xe000
  if c.toNat < 0xe000 then none
  else if n < 564 then some (42 + n / 94, 97 + n % 94)
  else if n < 1222 then some (120 + (n - 564) / 94, 97 + (n - 564) % 94)
  else if n < 1894 then some (33 + (n - 1222) / 96, 1 + (n - 1222) % 96)
  else Charset.gb18030Private.findSome? fun (first, row, cell, length) =>
    if first ≤ c.toNat ∧ c.toNat < first + length then some (row, cell + (c.toNat - first))
    else none

/-- Two bytes for a character of GB 18030, if it has two. -/
def double? (c : Char) : Option (List UInt8) :=
  extended? c <|>
    ((Charset.gb18030.find? c <|> privatePlace? c).map fun (row, cell) => wideCode row cell)

/-- How many of some characters have a number below `n`. -/
def countBelow (n : Nat) (cells : Cells) : Nat :=
  (cells.flatMap fun (_, _, cs) => cs.toList).countP fun c => c.toNat < n

/-- How many characters with two bytes have a number below `n`. Of GB 2312, one sign has
    four bytes, and another one is counted in its place in GBK. -/
def doublesBelow (n : Nat) : Nat :=
  countBelow n Charset.gbk + countBelow n Charset.gb18030 +
    (countBelow n Charset.gb2312 - ['\u30fb', '\u2015'].countP fun c => c.toNat < n) +
    min (n - 0xe000) 1894 +
    Charset.gb18030Private.foldl (fun k (first, _, _, length) => k + min (n - first) length) 0

/-- The number of a character among those of four bytes: they follow each other without
    gaps up to the first 65536, and begin anew after those. -/
def quadrupleNumber (c : Char) : Nat :=
  let n := c.toNat
  if 0x10000 ≤ n then 189000 + (n - 0x10000)
  else n - 0x80 - doublesBelow n - if 0xe000 ≤ n then 0x800 else 0

/-- Four bytes for a number: digits of two sizes by turns. -/
def quadruple (n : Nat) : List UInt8 :=
  octets [0x81 + n / 12600, 0x30 + n / 1260 % 10, 0x81 + n / 10 % 126, 0x30 + n % 10]

/-- The code of a place among 157 in a row, whose second bytes are in two blocks. -/
def traditionalCode (first row cell : Nat) : List UInt8 :=
  octets [first + row, cell + if cell < 64 then 0x3f else 0x61]

/-- Two bytes for a character of Big5. -/
def traditional? (c : Char) : Option (List UInt8) :=
  (Charset.big5.find? c).map fun (row, cell) => traditionalCode 0xa0 row cell

/-- Two bytes for a character in code page 950. -/
def taiwan? (c : Char) : Option (List UInt8) :=
  ((Charset.windowsTaiwan.find? c).map fun (row, cell) => traditionalCode 0xa0 row cell) <|>
    traditional? c

/-- Two bytes for a character of Hong Kong. -/
def hongKong? (c : Char) : Option (List UInt8) :=
  ((Charset.hkscs.find? c).map fun (row, cell) => traditionalCode 0x80 row cell) <|>
    traditional? c

/-- The bytes of a character that is not ASCII, in the encodings without shifts. -/
def wideBytes? (e : Chinese) (c : Char) : Option (List UInt8) :=
  match e with
  | gb2312 => simplified? c
  | gbk => extended? c
  | gb18030 => double? c <|> some (quadruple (quadrupleNumber c))
  | big5 => traditional? c
  | windows950 => taiwan? c
  | hongKong => hongKong? c
  | shifting => none

/-- The step of an encoding without shifts. Only those of Hong Kong have codes for
    pairs. -/
def step (e : Chinese) : Step Unit := fun _ c next =>
  match asciiByte? c with
  | some b => some ([b], false, ())
  | none =>
    let pair := next.bind fun d => Charset.hkscsPairs.find? fun (p, _) => p.toList = [c, d]
    match e, pair with
    | hongKong, some (_, row, cell) => some (traditionalCode 0x80 row cell, true, ())
    | e, _ => (e.wideBytes? c).map fun bytes => (bytes, false, ())

/-- The step of the encoding with shifts; the state is whether codes stand for Chinese
    characters. A tilde, which announces a shift, is doubled. -/
def shiftStep : Step Bool := fun shifted c _ =>
  match asciiByte? c with
  | some b =>
    some ((if shifted then octets [0x7e, 0x7d] else []) ++ (if c = '~' then [b, b] else [b]),
      false, false)
  | none => (Charset.gb2312.find? c).map fun (row, cell) =>
    ((if shifted then [] else octets [0x7e, 0x7b]) ++ octets [0x20 + row, 0x20 + cell],
      false, true)

/-- The bytes of a text. -/
def encode (e : Chinese) (cs : List Char) : Except Lack (List UInt8) :=
  match e with
  | shifting => stream shiftStep false 0 false cs
  | e => stream e.step false 0 () cs

end Chinese

end InstallerKit.Text.Encoding
