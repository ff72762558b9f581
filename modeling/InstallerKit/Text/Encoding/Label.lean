import InstallerKit.Text.Case
import InstallerKit.Text.Direction
import InstallerKit.Text.Normal
import InstallerKit.Text.Quoted

/-!
# Labels of domain names

A label is prepared before it is written in letters and digits: some invisible
characters are dropped, letters become small ones, and the whole gets its normal form.
Blanks, control characters and characters that say how others are laid out are refused;
and what runs to the left may not be mixed with what runs to the right, and has to stand
at both ends.

The rules know the characters of Unicode 3.2. Those that came later are taken for what
they are, and stand for nothing else.
-/

namespace InstallerKit.Text.Encoding

/-- What is wrong with a label. -/
inductive BadLabel
  /-- The label is empty or too long. -/
  | length
  | character (c : Char)
  /-- The label starts like one in letters and digits. -/
  | marked
  /-- Characters that run to the left and others that run to the right. -/
  | mixed
  /-- Characters that run to the left, but not at both ends. -/
  | ends
  deriving DecidableEq, Repr

/-- What is said of a label. -/
def BadLabel.message : BadLabel → String
  | length => "label empty or too long"
  | character c => "Invalid character " ++ quoted c.toString
  | marked => "Label starts with ACE prefix"
  | mixed => "Violation of BIDI requirement 2"
  | ends => "Violation of BIDI requirement 3"

namespace Label

/-- The characters that are dropped. -/
def droppedRanges : Ranges :=
  [(0xad, 0xad), (0x34f, 0x34f), (0x1806, 0x1806), (0x180b, 0x180d), (0x200b, 0x200d),
   (0x2060, 0x2060), (0xfe00, 0xfe0f), (0xfeff, 0xfeff)]

/-- The characters that are refused. -/
def refusedRanges : Ranges :=
  [(0x80, 0xa0), (0x340, 0x341), (0x6dd, 0x6dd), (0x70f, 0x70f), (0x1680, 0x1680),
   (0x180e, 0x180e), (0x2000, 0x200f), (0x2028, 0x202f), (0x205f, 0x2063), (0x206a, 0x206f),
   (0x2ff0, 0x2ffb), (0x3000, 0x3000), (0xe000, 0xf8ff), (0xfdd0, 0xfdef), (0xfeff, 0xfeff),
   (0xfff9, 0xffff), (0x1d173, 0x1d17a), (0x1fffe, 0x1ffff), (0x2fffe, 0x2ffff),
   (0x3fffe, 0x3ffff), (0x4fffe, 0x4ffff), (0x5fffe, 0x5ffff), (0x6fffe, 0x6ffff),
   (0x7fffe, 0x7ffff), (0x8fffe, 0x8ffff), (0x9fffe, 0x9ffff), (0xafffe, 0xaffff),
   (0xbfffe, 0xbffff), (0xcfffe, 0xcffff), (0xdfffe, 0xdffff), (0xe0001, 0xe0001),
   (0xe0020, 0xe007f), (0xefffe, 0x10ffff)]

/-- The characters that came later and would stand for others. -/
def laterRanges : Ranges :=
  [(0x3f9, 0x3f9), (0x10fc, 0x10fc), (0x1b06, 0x1b06), (0x1b08, 0x1b08), (0x1b0a, 0x1b0a),
   (0x1b0c, 0x1b0c), (0x1b0e, 0x1b0e), (0x1b12, 0x1b12), (0x1b3b, 0x1b3b), (0x1b3d, 0x1b3d),
   (0x1b40, 0x1b41), (0x1b43, 0x1b43), (0x1d2c, 0x1d2e), (0x1d30, 0x1d3a), (0x1d3c, 0x1d4d),
   (0x1d4f, 0x1d6a), (0x1d78, 0x1d78), (0x1d9b, 0x1dbf), (0x2090, 0x209c), (0x213b, 0x213c),
   (0x2150, 0x2152), (0x2189, 0x2189), (0x2c7c, 0x2c7d), (0x2d6f, 0x2d6f), (0x321d, 0x321e),
   (0x3244, 0x3247), (0x3250, 0x3250), (0x327c, 0x327e), (0x32cc, 0x32cf), (0x32ff, 0x32ff),
   (0x3377, 0x337a), (0x33de, 0x33df), (0x33ff, 0x33ff), (0xa69c, 0xa69d), (0xa770, 0xa770),
   (0xa7f2, 0xa7f4), (0xa7f8, 0xa7f9), (0xab5c, 0xab5f), (0xab69, 0xab69), (0xfa2e, 0xfa2f),
   (0xfa6b, 0xfa6d), (0xfa70, 0xfad9), (0xfe10, 0xfe19), (0xfe47, 0xfe48), (0x10781, 0x10785),
   (0x10787, 0x107b0), (0x107b2, 0x107ba), (0x1109a, 0x1109a), (0x1109c, 0x1109c),
   (0x110ab, 0x110ab), (0x1112e, 0x1112f), (0x1134b, 0x1134c), (0x114bb, 0x114bc),
   (0x114be, 0x114be), (0x115ba, 0x115bb), (0x11938, 0x11938), (0x1d4c1, 0x1d4c1),
   (0x1d6a4, 0x1d6a5), (0x1d7ca, 0x1d7cb), (0x1ee00, 0x1ee03), (0x1ee05, 0x1ee1f),
   (0x1ee21, 0x1ee22), (0x1ee24, 0x1ee24), (0x1ee27, 0x1ee27), (0x1ee29, 0x1ee32),
   (0x1ee34, 0x1ee37), (0x1ee39, 0x1ee39), (0x1ee3b, 0x1ee3b), (0x1ee42, 0x1ee42),
   (0x1ee47, 0x1ee47), (0x1ee49, 0x1ee49), (0x1ee4b, 0x1ee4b), (0x1ee4d, 0x1ee4f),
   (0x1ee51, 0x1ee52), (0x1ee54, 0x1ee54), (0x1ee57, 0x1ee57), (0x1ee59, 0x1ee59),
   (0x1ee5b, 0x1ee5b), (0x1ee5d, 0x1ee5d), (0x1ee5f, 0x1ee5f), (0x1ee61, 0x1ee62),
   (0x1ee64, 0x1ee64), (0x1ee67, 0x1ee6a), (0x1ee6c, 0x1ee72), (0x1ee74, 0x1ee77),
   (0x1ee79, 0x1ee7c), (0x1ee7e, 0x1ee7e), (0x1ee80, 0x1ee89), (0x1ee8b, 0x1ee9b),
   (0x1eea1, 0x1eea3), (0x1eea5, 0x1eea9), (0x1eeab, 0x1eebb), (0x1f100, 0x1f10a),
   (0x1f110, 0x1f12e), (0x1f130, 0x1f14f), (0x1f16a, 0x1f16c), (0x1f190, 0x1f190),
   (0x1f200, 0x1f202), (0x1f210, 0x1f23b), (0x1f240, 0x1f248), (0x1f250, 0x1f251),
   (0x1fbf0, 0x1fbf9)]

/-- What characters stand for in labels. Five ideographs stood for others at that time. -/
def edition : Normal.Edition where
  kept := laterRanges
  changed := [('㛼', '𡍪'), ('当', '弳'), ('𤎫', '䎫'), ('竮', '窮'), ('䗗', '䵗')]

/-- A small letter. A sharp s counts as two, a sigma at the end of a word as any other,
    and an iota below a letter as one after it. -/
def small (c : Char) : List Char :=
  if c = 'ß' then ['s', 's']
  else if c = 'ς' then ['σ']
  else if c = '\u0345' then ['ι']
  else lowerChar [] c []

/-- A character, and all that it stands for, in small letters. -/
def folded (c : Char) : List Char :=
  ((small c).flatMap edition.parts).flatMap small

/-- Checks the directions in a label. -/
def checkDirection (cs : List Char) : Except BadLabel Unit :=
  if !cs.any runsLeft then .ok ()
  else if cs.any runsRight then .error .mixed
  else if cs.head?.any runsLeft && cs.getLast?.any runsLeft then .ok ()
  else .error .ends

/-- A label as it is prepared. -/
def prepare (cs : List Char) : Except BadLabel (List Char) := do
  let kept := cs.filter fun c => !droppedRanges.contains c.toNat
  let label := edition.form (kept.flatMap folded)
  match label.find? fun c => refusedRanges.contains c.toNat with
  | some c => throw (.character c)
  | none => checkDirection label
  return label

end Label

end InstallerKit.Text.Encoding
