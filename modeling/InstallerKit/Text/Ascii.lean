import InstallerKit.Text.CodeUnit
import InstallerKit.Text.Quoted

/-!
# Literals in ASCII

A text between double quotation marks with nothing but visible ASCII characters and
spaces in it. Every other character is escaped by its code units of sixteen bits,
unless it has an escape of its own.
-/

namespace InstallerKit.Text

namespace Ascii

/-- A character inside a literal. -/
def encodeChar (c : Char) : List Char :=
  if c = '"' ∨ c = '\\' then ['\\', c]
  else if c = '\n' then ['\\', 'n']
  else if c = '\r' then ['\\', 'r']
  else if c = '\t' then ['\\', 't']
  else if c = '\x08' then ['\\', 'b']
  else if c = '\x0c' then ['\\', 'f']
  else if 32 ≤ c.toNat ∧ c.toNat < 127 then [c]
  else (units16 c).flatMap fun n => '\\' :: 'u' :: hexPlaces 4 n

end Ascii

/-- The literal of a text in ASCII. -/
def asciiQuoted (s : String) : String :=
  .ofList ('"' :: s.toList.flatMap Ascii.encodeChar ++ ['"'])

end InstallerKit.Text
