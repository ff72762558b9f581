/-!
# Coded character sets

A coded character set gives each of its characters a place: a row and a cell in that
row. The sets are kept as runs of characters in consecutive cells, in the order of
their places; a place between two runs is empty.
-/

namespace InstallerKit.Text.Charset

/-- Runs of characters in consecutive cells: the row, the first cell, and the
    characters. -/
abbrev Cells := List (Nat × Nat × String)

/-- The row and the cell of a character. -/
def Cells.find? (cells : Cells) (c : Char) : Option (Nat × Nat) :=
  cells.findSome? fun (row, first, cs) => (cs.toList.idxOf? c).map fun i => (row, first + i)

end InstallerKit.Text.Charset
