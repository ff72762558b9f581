import InstallerKit.Text.CodeUnit
import InstallerKit.Text.Encoding.Stream
import InstallerKit.Text.Quoted
import InstallerKit.Text.Utf8

/-!
# Unicode encodings

The encodings that have bytes for every character. Most of them write code units of a
width. One keeps to ASCII and writes the rest in digits of base 64 between a plus sign
and a hyphen; another writes the rest as escapes.
-/

namespace InstallerKit.Text.Encoding

namespace Seven

/-- The ASCII characters that stand for themselves: all that are shown, and blanks, but
    the plus sign, the backslash and the tilde. -/
def isDirect (c : Char) : Bool :=
  (32 ≤ c.toNat && c.toNat < 126 && c ≠ '+' && c ≠ '\\') || c ∈ ['\t', '\n', '\r']

/-- The digit of a number below 64. -/
def digit (n : Nat) : Char :=
  if n < 26 then .ofNat (65 + n)
  else if n < 52 then .ofNat (71 + n)
  else if n < 62 then .ofNat (n - 4)
  else if n = 62 then '+'
  else '/'

/-- Whether a character could be a digit, or would end the digits. -/
def joinsDigits (c : Char) : Bool :=
  c.isAlphanum || c ∈ ['+', '/', '-']

/-- Code units of sixteen bits as digits of six bits, with zeros in the end. -/
def digits (units : List Nat) : List Char :=
  let count := (16 * units.length + 5) / 6
  let n := units.foldl (fun n u => n * 65536 + u) 0 * Nat.pow 2 (6 * count - 16 * units.length)
  (List.range count).map fun i => digit (n / Nat.pow 64 (count - 1 - i) % 64)

/-- The digits of code units, announced by a plus sign, unless there are none. -/
def shifted (units : List Nat) : List Char :=
  if units = [] then [] else '+' :: digits units

/-- A text after some code units that are still to be written. A plus sign by itself
    has a hyphen after it. -/
def encodeAfter (units : List Nat) : List Char → List Char
  | [] => shifted units ++ if units = [] then [] else ['-']
  | c :: cs =>
    if isDirect c then
      shifted units ++ (if units ≠ [] && joinsDigits c then ['-', c] else [c]) ++
        encodeAfter [] cs
    else if c = '+' ∧ units = [] then '+' :: '-' :: encodeAfter [] cs
    else encodeAfter (units ++ units16 c) cs

/-- The bytes of a text. -/
def encode (cs : List Char) : List UInt8 :=
  (encodeAfter [] cs).map fun c => .ofNat c.toNat

end Seven

namespace Escaped

/-- The escape of a character by its number. -/
def numbered (c : Char) : List Char :=
  if c.toNat < 0x100 then '\\' :: 'x' :: hexPlaces 2 c.toNat
  else if c.toNat < 0x10000 then '\\' :: 'u' :: hexPlaces 4 c.toNat
  else '\\' :: 'U' :: hexPlaces 8 c.toNat

/-- A character of which only ASCII is shown. -/
def shown (c : Char) : List Char :=
  if c = '\\' then ['\\', '\\']
  else if c = '\t' then ['\\', 't']
  else if c = '\n' then ['\\', 'n']
  else if c = '\r' then ['\\', 'r']
  else if 32 ≤ c.toNat ∧ c.toNat < 127 then [c]
  else numbered c

/-- The bytes of a text. If it is `raw`, all characters of one byte stand for
    themselves. -/
def encode (raw : Bool) (cs : List Char) : List UInt8 :=
  (cs.flatMap fun c => if raw then (if c.toNat < 0x100 then [c] else numbered c) else shown c).map
    fun c => .ofNat c.toNat

end Escaped

end InstallerKit.Text.Encoding
