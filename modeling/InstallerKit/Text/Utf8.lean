import InstallerKit.Text.Hex

/-!
# UTF-8

A character is one to four bytes: a lead byte, which fixes how many
continuation bytes follow and which values the first of them may take, and the
continuation bytes, which carry six bits each. The reader goes through the bytes
one at a time, either between characters or inside one, and stops at the first
place where no character can be read. Its refusal names the bytes of the
character that failed:

* a byte that leads no character: that byte;
* a byte that does not continue the character: the bytes before it, from the
  lead byte on;
* the end of the input inside a character: everything from the lead byte on.
-/

namespace InstallerKit.Text.Utf8

/-- Why the bytes are no character. -/
inductive Reason
  | start
  | continuation
  | ending
  deriving DecidableEq, Repr

def Reason.message : Reason → String
  | .start => "invalid start byte"
  | .continuation => "invalid continuation byte"
  | .ending => "unexpected end of data"

/-- The refusal of a byte sequence. -/
structure Error where
  /-- The position of the lead byte. -/
  first : Nat
  /-- The position after the last byte of the refused piece. -/
  stop : Nat
  /-- The lead byte. -/
  lead : UInt8
  reason : Reason
  deriving DecidableEq, Repr

/-- One byte is named by its value, several by their positions. -/
def Error.message (e : Error) : String :=
  (if e.stop = e.first + 1 then
    "'utf-8' codec can't decode byte 0x" ++ byteDigits e.lead ++ " in position " ++
      toString e.first
  else
    "'utf-8' codec can't decode bytes in position " ++ toString e.first ++ "-" ++
      toString (e.stop - 1))
    ++ ": " ++ e.reason.message

/-- What a lead byte announces. -/
structure Lead where
  /-- The number of continuation bytes. -/
  owed : Nat
  /-- The least and the greatest first continuation byte. -/
  low : Nat
  high : Nat
  /-- The bits of the character that the lead byte carries. -/
  bits : Nat

/-- The lead bytes. The bounds on the first continuation byte exclude the
    characters that fewer bytes can hold, the surrogates, and what lies beyond
    the last code point. -/
def lead? (b : Nat) : Option Lead :=
  if b < 0x80 then some ⟨0, 0x80, 0xbf, b⟩
  else if b < 0xc2 then none
  else if b < 0xe0 then some ⟨1, 0x80, 0xbf, b - 0xc0⟩
  else if b = 0xe0 then some ⟨2, 0xa0, 0xbf, 0⟩
  else if b = 0xed then some ⟨2, 0x80, 0x9f, 0xd⟩
  else if b < 0xf0 then some ⟨2, 0x80, 0xbf, b - 0xe0⟩
  else if b = 0xf0 then some ⟨3, 0x90, 0xbf, 0⟩
  else if b < 0xf4 then some ⟨3, 0x80, 0xbf, b - 0xf0⟩
  else if b = 0xf4 then some ⟨3, 0x80, 0x8f, 4⟩
  else none

/-- Where the reader stands between two bytes. -/
inductive State
  /-- Between characters. -/
  | between
  /-- Inside the character led by `lead` at position `first`: `owed + 1` bytes
      are to come, the next of them from `low` to `high`; `bits` is what has
      been read of the character. -/
  | inside (first : Nat) (lead : UInt8) (owed low high bits : Nat)

/-- Reads the bytes from position `pos` on. -/
def decodeFrom : State → (pos : Nat) → List UInt8 → Except Error (List Char)
  | .between, _, [] => .ok []
  | .inside first lead _ _ _ _, pos, [] => .error ⟨first, pos, lead, .ending⟩
  | .between, pos, b :: bs =>
    match lead? b.toNat with
    | none => .error ⟨pos, pos + 1, b, .start⟩
    | some ⟨0, _, _, bits⟩ => (Char.ofNat bits :: ·) <$> decodeFrom .between (pos + 1) bs
    | some ⟨owed + 1, low, high, bits⟩ =>
      decodeFrom (.inside pos b owed low high bits) (pos + 1) bs
  | .inside first lead owed low high bits, pos, b :: bs =>
    if low ≤ b.toNat ∧ b.toNat ≤ high then
      let bits := bits * 64 + (b.toNat - 0x80)
      match owed with
      | 0 => (Char.ofNat bits :: ·) <$> decodeFrom .between (pos + 1) bs
      | owed + 1 => decodeFrom (.inside first lead owed 0x80 0xbf bits) (pos + 1) bs
    else .error ⟨first, pos, lead, .continuation⟩

/-- The text that the bytes spell, or the first piece that spells none. -/
def decode (bs : List UInt8) : Except Error (List Char) :=
  decodeFrom .between 0 bs

/-- The bytes of a character. -/
def encodeChar (c : Char) : List UInt8 :=
  let n := c.toNat
  if n < 0x80 then [.ofNat n]
  else if n < 0x800 then [.ofNat (0xc0 + n / 64), .ofNat (0x80 + n % 64)]
  else if n < 0x10000 then
    [.ofNat (0xe0 + n / 4096), .ofNat (0x80 + n / 64 % 64), .ofNat (0x80 + n % 64)]
  else
    [.ofNat (0xf0 + n / 262144), .ofNat (0x80 + n / 4096 % 64), .ofNat (0x80 + n / 64 % 64),
      .ofNat (0x80 + n % 64)]

/-- The bytes of a text. -/
def encode (cs : List Char) : List UInt8 :=
  cs.flatMap encodeChar

end InstallerKit.Text.Utf8
