/-!
# Ranges of characters

The character classes that the kit consults beyond ASCII (word characters,
printable characters) are unions of a few hundred intervals of code points.
A class is kept as the list of its intervals and consulted by membership in
one of them.
-/

namespace InstallerKit.Text

/-- A class of characters, as closed intervals of code points. -/
abbrev Ranges := List (Nat × Nat)

/-- Whether the code point `n` lies in one of the intervals. -/
def Ranges.contains (r : Ranges) (n : Nat) : Bool :=
  r.any fun (lo, hi) => lo ≤ n && n ≤ hi

end InstallerKit.Text
