import InstallerKit.Text.Charset.CodePage
import InstallerKit.Text.Encoding.Chinese
import InstallerKit.Text.Encoding.DomainName
import InstallerKit.Text.Encoding.Japanese
import InstallerKit.Text.Encoding.Korean
import InstallerKit.Text.Encoding.Unicode

/-!
# Encodings

An encoding turns a text into bytes. Those of Unicode have bytes for every character,
the others for some only. The refusal of a text names the first character without
bytes; where characters have single bytes, it names those right after it as well.

Domain names are refused for their labels, and one encoding refuses every text.
-/

namespace InstallerKit.Text

/-- An encoding of text. -/
inductive Encoding
  | utf8
  /-- UTF-8 after a byte order mark. -/
  | utf8Marked
  /-- UTF-7. -/
  | utf7
  /-- Without an order, little-endian after a byte order mark. -/
  | utf16 (order : Option ByteOrder)
  | utf32 (order : Option ByteOrder)
  /-- Escapes; `raw` ones only for what a single byte cannot hold. -/
  | escaped (raw : Bool)
  | ascii
  | latin1
  | page (p : Charset.CodePage)
  | japanese (e : Encoding.Japanese)
  | korean (e : Encoding.Korean)
  | chinese (e : Encoding.Chinese)
  | punycode
  | domainNames
  /-- The encoding that refuses every text. -/
  | undefined
  deriving DecidableEq, Repr

namespace Encoding

/-- Why a text is refused. -/
inductive Refusal
  | lack (l : Lack)
  | label (b : BadLabel)
  | undefined
  deriving DecidableEq, Repr

/-- A character as a byte of the same number, below a bound. -/
def byteBelow? (bound : Nat) (c : Char) : Option (List UInt8) :=
  if c.toNat < bound then some [.ofNat c.toNat] else none

/-- Characters as code units of some width. -/
def wide (width : Nat) (order : Option ByteOrder) (units : List Nat) : List UInt8 :=
  match order with
  | some order => units.flatMap (unitBytes width order)
  | none => (0xfeff :: units).flatMap (unitBytes width .little)

/-- The bytes of a text. -/
def encode (e : Encoding) (cs : List Char) : Except Refusal (List UInt8) :=
  match e with
  | utf8 => .ok (Utf8.encode cs)
  | utf8Marked => .ok (Utf8.encode ('\ufeff' :: cs))
  | utf7 => .ok (Seven.encode cs)
  | utf16 order => .ok (wide 2 order (cs.flatMap units16))
  | utf32 order => .ok (wide 4 order (cs.map Char.toNat))
  | escaped raw => .ok (Escaped.encode raw cs)
  | ascii => (each (byteBelow? 0x80) cs).mapError .lack
  | latin1 => (each (byteBelow? 0x100) cs).mapError .lack
  | page p => (each (fun c => (p.byte? c).map fun b => [b]) cs).mapError .lack
  | japanese e => (e.encode cs).mapError .lack
  | korean e => (e.encode cs).mapError .lack
  | chinese e => (e.encode cs).mapError .lack
  | punycode => .ok (Utf8.encode (Punycode.encode cs))
  | domainNames =>
    match DomainName.encode cs with
    | .ok cs => .ok (Utf8.encode cs)
    | .error b => .error (.label b)
  | undefined => .error .undefined

end Encoding

end InstallerKit.Text
