/-!
# Hexadecimal digits

A byte is written in two digits, the lower-case letters standing for ten and more.
Digits are read in either case.
-/

namespace InstallerKit.Text

def isHexDigit (c : Char) : Bool :=
  c.isDigit || ('a' ≤ c && c ≤ 'f') || ('A' ≤ c && c ≤ 'F')

/-- The value of a digit. -/
def hexValue (c : Char) : Nat :=
  if c.isDigit then c.toNat - 48 else if c ≤ 'F' then c.toNat - 55 else c.toNat - 87

/-- The two digits of a byte. -/
def byteDigits (b : UInt8) : String :=
  let ds := Nat.toDigits 16 b.toNat
  .ofList (List.replicate (2 - ds.length) '0' ++ ds)

/-- The digits of some bytes. -/
def hexOfBytes (bs : List UInt8) : String :=
  .join (bs.map byteDigits)

/-- The bytes of some digits. A last digit without another one counts for nothing. -/
def bytesOfHex : List Char → List UInt8
  | a :: b :: rest => .ofNat (hexValue a * 16 + hexValue b) :: bytesOfHex rest
  | _ => []

end InstallerKit.Text
