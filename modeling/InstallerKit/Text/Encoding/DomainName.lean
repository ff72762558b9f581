import InstallerKit.Text.Encoding.Label
import InstallerKit.Text.Encoding.Punycode

/-!
# Domain names

Domain names are written label by label: a label of ASCII characters as it is, another
one after it has been prepared, in letters and digits after a mark if they are needed. A
label is neither empty nor longer than 63 bytes. What follows the last full stop is not
yet a label.
-/

namespace InstallerKit.Text.Encoding.DomainName

/-- The characters that end a label. -/
def isStop (c : Char) : Bool :=
  c ∈ ['.', '\u3002', '\uff0e', '\uff61']

/-- The labels that are complete. -/
def labels (cs : List Char) : List (List Char) :=
  match cs.splitOnP isStop with
  | [] => []
  | ls => ls.dropLast

def isAscii (cs : List Char) : Bool :=
  cs.all fun c => c.toNat < 0x80

/-- What labels in letters and digits start with. -/
def mark : List Char := "xn--".toList

/-- The characters that a label is written with, however many they are. -/
def written (cs : List Char) : Except BadLabel (List Char) := do
  if isAscii cs then return cs
  let label ← Label.prepare cs
  if isAscii label then return label
  if mark.isPrefixOf label then throw .marked
  return mark ++ Punycode.encode label

/-- A label as it is written. -/
def encodeLabel (cs : List Char) : Except BadLabel (List Char) := do
  let cs ← written cs
  if 0 < cs.length ∧ cs.length < 64 then return cs else throw .length

/-- The labels of a text, each with a full stop after it. -/
def encode (cs : List Char) : Except BadLabel (List Char) := do
  return (← (labels cs).mapM encodeLabel).flatMap (· ++ ['.'])

end InstallerKit.Text.Encoding.DomainName
