/-!
# Pieces and lines

A text falls into pieces at every occurrence of a separator, and there is a piece,
if only an empty one, on either side of each. Lines are the pieces between line
feeds. Where a text may come from any system, every way to end a line is made a
line feed first.
-/

namespace InstallerKit.Text

/-- The pieces between the separators of a text. -/
def pieces (separator : Char) : List Char → List (List Char)
  | [] => [[]]
  | c :: cs =>
    if c = separator then [] :: pieces separator cs
    else
      match pieces separator cs with
      | [] => [[c]]
      | p :: ps => (c :: p) :: ps

theorem pieces_ne_nil (separator : Char) (cs : List Char) : pieces separator cs ≠ [] := by
  cases cs with
  | nil => simp [pieces]
  | cons c cs =>
    rw [pieces]
    split
    · simp
    · split <;> simp

/-- The lines of a text. -/
def lines (s : String) : List String :=
  (pieces '\n' s.toList).map .ofList

/-- The text with every line end made a line feed: a carriage return is one, alone
    or with a line feed after it. -/
def unifyLineEnds : List Char → List Char
  | [] => []
  | '\r' :: '\n' :: cs => '\n' :: unifyLineEnds cs
  | c :: cs => (if c = '\r' then '\n' else c) :: unifyLineEnds cs

end InstallerKit.Text
