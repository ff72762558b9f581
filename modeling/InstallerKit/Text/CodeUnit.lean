/-!
# Code units

A character is a number, and encodings of Unicode write it in one or more *code units*
of a fixed width. In units of sixteen bits a character beyond the first 65536 is a pair
of units that stand for nothing else.
-/

namespace InstallerKit.Text

/-- The order of the bytes of a code unit. -/
inductive ByteOrder
  | little
  | big
  deriving DecidableEq, Repr

/-- The bytes of the number `n` as a code unit of `width` bytes. -/
def unitBytes (width : Nat) (order : ByteOrder) (n : Nat) : List UInt8 :=
  let little := (List.range width).map fun i => UInt8.ofNat (n / Nat.pow 256 i % 256)
  match order with
  | .little => little
  | .big => little.reverse

/-- The code units of sixteen bits for a character: itself, or a pair. -/
def units16 (c : Char) : List Nat :=
  let n := c.toNat
  if n < 0x10000 then [n]
  else [0xd800 + (n - 0x10000) / 1024, 0xdc00 + (n - 0x10000) % 1024]

end InstallerKit.Text
