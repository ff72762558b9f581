import InstallerKit.Datum

/-!
# Reading TOML

A reader takes characters from the front of a text and answers a value and the
characters that are left. Line ends have been made line feeds before.
-/

namespace InstallerKit.Toml

/-- Why a text cannot be read. -/
inductive Error
  /-- The text is no TOML. -/
  | malformed
  /-- A decimal number of too many digits. -/
  | tooLong (digits : Nat)
  /-- Too many lists and tables inside each other. -/
  | tooDeep
  deriving DecidableEq, Repr

/-- The characters between the parts of a line. -/
def isSpace (c : Char) : Bool :=
  c = ' ' || c = '\t'

/-- The characters that no line may hold. -/
def isIllegal (c : Char) : Bool :=
  (c.toNat < 32 || c.toNat = 127) && c ≠ '\t'

def skipSpace (cs : List Char) : List Char :=
  cs.dropWhile isSpace

/-- Skips a comment, up to the end of its line. -/
def skipComment : List Char → Except Error (List Char)
  | '#' :: cs =>
    if (cs.takeWhile (· ≠ '\n')).any isIllegal then .error .malformed
    else .ok (cs.dropWhile (· ≠ '\n'))
  | cs => .ok cs

end InstallerKit.Toml
