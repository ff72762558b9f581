/-!
# Code pages

A code page is a coded character set whose codes are single bytes. It is kept as runs
of characters at consecutive bytes, after those bytes that stand for the characters of
the same number.
-/

namespace InstallerKit.Text.Charset

/-- A character set of single bytes. -/
structure CodePage where
  /-- A byte below this one stands for the character of the same number. -/
  plain : Nat
  /-- Runs of characters at consecutive bytes, with the first byte of each. -/
  runs : List (Nat × String)
  deriving DecidableEq, Repr

/-- The byte of a character. -/
def CodePage.byte? (p : CodePage) (c : Char) : Option UInt8 :=
  if c.toNat < p.plain then some (.ofNat c.toNat)
  else p.runs.findSome? fun (first, cs) => (cs.toList.idxOf? c).map fun i => .ofNat (first + i)

end InstallerKit.Text.Charset
