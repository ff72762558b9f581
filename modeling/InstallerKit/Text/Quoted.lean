import InstallerKit.Text.Printable

/-!
# Quoted literals

Messages quote a text so that it reads on one line and nothing in it is
invisible. The quotation mark is the apostrophe, or the double quotation mark
if the text has an apostrophe and no double one. The mark and the backslash are
preceded by a backslash; line feed, carriage return and tab have escapes of
their own; whatever else is not printable is written by its code point, in two,
four or eight hexadecimal digits.
-/

namespace InstallerKit.Text

/-- The hexadecimal digit of a number below sixteen. -/
def hexDigit (n : Nat) : Char :=
  if n < 10 then Char.ofNat (48 + n) else Char.ofNat (87 + n)

/-- The last `width` hexadecimal digits of `n`. -/
def hexPlaces : (width : Nat) → (n : Nat) → List Char
  | 0, _ => []
  | width + 1, n => hexPlaces width (n / 16) ++ [hexDigit (n % 16)]

namespace Quoted

/-- The mark around the literal of a text. -/
def mark (cs : List Char) : Char :=
  if '\'' ∈ cs ∧ ¬ '"' ∈ cs then '"' else '\''

/-- A character inside a literal with the mark `q`. -/
def encodeChar (q c : Char) : List Char :=
  if c = q ∨ c = '\\' then ['\\', c]
  else if c = '\n' then ['\\', 'n']
  else if c = '\r' then ['\\', 'r']
  else if c = '\t' then ['\\', 't']
  else if isPrintable c then [c]
  else if c.toNat < 0x100 then '\\' :: 'x' :: hexPlaces 2 c.toNat
  else if c.toNat < 0x10000 then '\\' :: 'u' :: hexPlaces 4 c.toNat
  else '\\' :: 'U' :: hexPlaces 8 c.toNat

/-- The literal of a text. -/
def encode (cs : List Char) : List Char :=
  mark cs :: cs.flatMap (encodeChar (mark cs)) ++ [mark cs]

end Quoted

/-- The literal of a text. -/
def quoted (s : String) : String :=
  .ofList (Quoted.encode s.toList)

/-- The literal of a single character. -/
def quotedChar (c : Char) : String :=
  .ofList (Quoted.encode [c])

end InstallerKit.Text
