import InstallerKit.Text.Charset.KsX1001
import InstallerKit.Text.Encoding.Stream

/-!
# Korean encodings

All of them write ASCII as it is, and the characters of KS X 1001 in two bytes. They
differ in what they do with the syllables of Hangul that are not in it: refuse them,
spell them out in four codes, give them the codes that are left in the order of the
syllables, or give all syllables codes by their three parts.
-/

namespace InstallerKit.Text.Encoding

open Charset (ksX1001)

namespace Hangul

/-- The number of a syllable, if the character is one. -/
def number? (c : Char) : Option Nat :=
  if 0xac00 ≤ c.toNat ∧ c.toNat ≤ 0xd7a3 then some (c.toNat - 0xac00) else none

/-- The initial, the medial and the final part of a syllable by their numbers. No final
    part has the number zero. -/
def parts (n : Nat) : Nat × Nat × Nat :=
  (n / 588, n / 28 % 21, n % 28)

/-- The cells of the initial letters among the letters of KS X 1001. -/
def initialCells : List Nat :=
  [1, 2, 4, 7, 8, 9, 17, 18, 19, 21, 22, 23, 24, 25, 26, 27, 28, 29, 30]

/-- The cells of the final letters; the filler is in the place of none. -/
def finalCells : List Nat :=
  [52, 1, 2, 3, 4, 5, 6, 7, 9, 10, 11, 12, 13, 14, 15, 16, 17, 18, 20, 21, 22, 23, 24, 26, 27,
    28, 29, 30]

/-- A syllable spelled out: a filler and the letters of its parts, all from one row. -/
def spelled (n : Nat) : List UInt8 :=
  let (first, second, third) := parts n
  [52, initialCells.getD first 0, 31 + second, finalCells.getD third 0].flatMap fun cell =>
    octets [0xa4, 0xa0 + cell]

/-- The codes of the parts of a syllable, of five bits each. -/
def medialCodes : List Nat :=
  [3, 4, 5, 6, 7, 10, 11, 12, 13, 14, 15, 18, 19, 20, 21, 22, 23, 26, 27, 28, 29]

/-- The code of a final part. -/
def finalCode (n : Nat) : Nat := if n < 17 then n + 1 else n + 2

/-- Three codes of five bits behind a set one, in two bytes. -/
def combined (first second third : Nat) : List UInt8 :=
  let n := 0x8000 + first * 1024 + second * 32 + third
  octets [n / 256, n % 256]

end Hangul

/-- A Korean encoding. -/
inductive Korean
  /-- Two bytes from 0xa1 on; syllables that have none are spelled out. -/
  | extended
  /-- The same, with the codes that are left for the other syllables. -/
  | unified
  /-- Syllables by their parts. -/
  | johab
  /-- Bytes below 0x80, with shifts between the character sets. -/
  | shifting
  deriving DecidableEq, Repr

namespace Korean

/-- Two bytes from 0xa1 on for a character of KS X 1001. -/
def double? (c : Char) : Option (List UInt8) :=
  (ksX1001.find? c).map fun (row, cell) => octets [0xa0 + row, 0xa0 + cell]

/-- The second bytes of the codes for syllables that are not in KS X 1001. -/
def freeTrails : List Nat :=
  (List.range 26).map (0x41 + ·) ++ (List.range 26).map (0x61 + ·) ++
    (List.range 126).map (0x81 + ·)

/-- How many syllables of KS X 1001 come before the one with a number. -/
def countBefore (n : Nat) : Nat :=
  (ksX1001.flatMap fun (_, _, cs) => cs.toList).countP fun c =>
    (Hangul.number? c).any (· < n)

/-- The code of a syllable that is not in KS X 1001. Up to a first byte of 0xa0 all
    second bytes are free, later those below 0xa1. -/
def freeCode (n : Nat) : List UInt8 :=
  let i := n - countBefore n
  let (lead, j) := if i < 5696 then (0x81 + i / 178, i % 178)
    else (0xa1 + (i - 5696) / 84, (i - 5696) % 84)
  octets [lead, freeTrails.getD j 0]

/-- The code of a single letter of Hangul: a syllable without the other parts. The
    letters that are only final are in the same order as the codes. -/
def letterCode? (c : Char) : Option (List UInt8) :=
  let cell := c.toNat - 0x3130
  if 0x3131 ≤ c.toNat ∧ c.toNat ≤ 0x314e then
    some <| match Hangul.initialCells.idxOf? cell with
      | some i => Hangul.combined (i + 2) 2 1
      | none => Hangul.combined 1 2 (Hangul.finalCode (Hangul.finalCells.idxOf cell))
  else if 0x314f ≤ c.toNat ∧ c.toNat ≤ 0x3163 then
    some (Hangul.combined 1 (Hangul.medialCodes.getD (cell - 31) 0) 1)
  else none

/-- The code by parts for a character. What is no Hangul follows its place in
    KS X 1001: two rows share a first byte. -/
def johabBytes? (c : Char) : Option (List UInt8) :=
  match Hangul.number? c, letterCode? c with
  | some n, _ =>
    let (first, second, third) := Hangul.parts n
    some (Hangul.combined (first + 2) (Hangul.medialCodes.getD second 0)
      (Hangul.finalCode third))
  | none, some code => some code
  | none, none => (ksX1001.find? c).map fun (row, cell) =>
    let line := if row < 42 then row + 0x1b1 else row + 0x196
    let column := line % 2 * 94 + cell - 1
    octets [line / 2, column + if column < 78 then 0x31 else 0x43]

/-- The bytes of a character, in the encodings without shifts. -/
def bytes? (k : Korean) (c : Char) : Option (List UInt8) :=
  match asciiByte? c, k with
  | some b, _ => some [b]
  | none, extended => double? c <|> (Hangul.number? c).map Hangul.spelled
  | none, unified => double? c <|> (Hangul.number? c).map freeCode
  | none, johab => johabBytes? c
  | none, shifting => none

/-- Where a text with shifts is. -/
structure Shift where
  /-- Whether the Korean set has been announced. -/
  announced : Bool
  /-- Whether codes stand for Korean characters. -/
  out : Bool

/-- The step of the encoding with shifts. -/
def shiftStep : Step Shift := fun s c _ =>
  match asciiByte? c with
  | some b => some ((if s.out then [0x0f, b] else [b]), false, { s with out := false })
  | none => (ksX1001.find? c).map fun (row, cell) =>
    ((if s.announced then [] else [0x1b, 0x24, 0x29, 0x43]) ++ (if s.out then [] else [0x0e]) ++
      octets [0x20 + row, 0x20 + cell], false, ⟨true, true⟩)

/-- The bytes of a text. -/
def encode (k : Korean) (cs : List Char) : Except Lack (List UInt8) :=
  match k with
  | shifting => stream shiftStep false 0 ⟨false, false⟩ cs
  | k => stream (fixed k.bytes?) false 0 () cs

end Korean

end InstallerKit.Text.Encoding
