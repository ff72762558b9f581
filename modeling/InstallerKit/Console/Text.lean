import InstallerKit.Console.Width
import InstallerKit.Diagnostics
import InstallerKit.Text.Pieces

/-!
# Text on a console

Before a text is shown, the control characters that would move the cursor back are
taken out, and tabs are filled up with spaces to the next multiple of eight
columns. A text is shown line by line.

Records of a log have their level in front, in a column of its own.
-/

namespace InstallerKit.Console

/-- The control characters that are not shown. -/
def isHidden (c : Char) : Bool :=
  c.toNat ∈ [7, 8, 11, 12, 13]

/-- The columns from one tab stop to the next. -/
def tabWidth : Nat := 8

/-- What comes before a tab, with spaces up to the next tab stop. It begins at one. -/
def filled (cs : List Char) : List Char :=
  let cs := cs ++ [' ']
  cs ++ .replicate ((tabWidth - columnsOf cs % tabWidth) % tabWidth) ' '

/-- A line with spaces for its tabs. -/
def expandTabs (line : List Char) : List Char :=
  let parts := Text.pieces '\t' line
  parts.dropLast.flatMap filled ++ parts.getLastD []

/-- The lines of a text as they are shown. -/
def shownLines (s : String) : List String :=
  (Text.lines (.ofList (s.toList.filter fun c => !isHidden c))).map fun line =>
    .ofList (expandTabs line.toList)

/-- A text filled up with spaces to a width. -/
def padded (width : Nat) (s : String) : String :=
  s ++ .ofList (List.replicate (width - s.length) ' ')

/-- The width of the column of levels. -/
def levelWidth : Nat := 8

/-- The lines of a record. -/
def recordLines (r : Record) : List String :=
  match shownLines r.text with
  | [] => []
  | first :: rest =>
    (padded levelWidth r.level.label ++ " " ++ first) :: rest.map (padded (levelWidth + 1) "" ++ ·)

end InstallerKit.Console
