import InstallerKit.Text.Pieces
import InstallerKit.Text.Quoted

/-!
# Paths

A path is what the text of a path says before any file system is asked: whether
it starts at the root, and the names to follow from there. Empty names and full
stops say nothing and are dropped; two full stops are a name like any other, as
only a file system knows the parent of what it has reached.

Two leading slashes, and neither one nor three, are a root of their own.

* `name`, `parent`, `join`: the operations on the names;
* `withSuffix?`: the path with another ending of its last name.
-/

namespace InstallerKit

/-- Where a path starts. -/
inductive Path.Root
  /-- In the working directory. -/
  | here
  | slash
  | slashes
  deriving DecidableEq, Repr, Inhabited

/-- A start and the names to follow. -/
structure Path where
  root : Path.Root
  names : List String
  deriving DecidableEq, Repr, Inhabited

namespace Path

/-- The working directory. -/
def here : Path := ⟨.here, []⟩

/-- The root that a text starts with, by its leading slashes. -/
def Root.ofChars : List Char → Root
  | '/' :: '/' :: '/' :: _ => .slash
  | '/' :: '/' :: _ => .slashes
  | '/' :: _ => .slash
  | _ => .here

/-- The path that a text denotes. -/
def ofString (s : String) : Path where
  root := .ofChars s.toList
  names := ((Text.pieces '/' s.toList).filter fun p => p ≠ [] ∧ p ≠ ['.']).map .ofList

/-- The text of a root. -/
def Root.text : Root → String
  | .here => ""
  | .slash => "/"
  | .slashes => "//"

/-- The text of a path; a path that says nothing is a full stop. -/
def text (p : Path) : String :=
  if p.root = .here ∧ p.names = [] then "." else p.root.text ++ "/".intercalate p.names

instance : ToString Path := ⟨text⟩

/-- The quoted text of a path. -/
def quoted (p : Path) : String :=
  Text.quoted p.text

def isAbsolute (p : Path) : Bool :=
  p.root ≠ .here

/-- The last name, or nothing. -/
def name (p : Path) : String :=
  p.names.getLast?.getD ""

/-- The path without its last name. -/
def parent (p : Path) : Path :=
  { p with names := p.names.dropLast }

/-- The path `q` as seen from `p`: an absolute path stays what it is. -/
def join (p q : Path) : Path :=
  if q.isAbsolute then q else { p with names := p.names ++ q.names }

instance : HDiv Path Path Path := ⟨join⟩

/-- The path of the name `s` as seen from `p`. -/
def child (p : Path) (s : String) : Path :=
  p / ofString s

/-- The stem and the suffix of a name. The suffix starts at the last full stop,
    which must be neither the first nor the last character. -/
def splitSuffix (name : List Char) : List Char × List Char :=
  let tail := (name.reverse.takeWhile (· ≠ '.')).reverse
  let stem := (name.reverse.dropWhile (· ≠ '.')).drop 1 |>.reverse
  if tail = [] ∨ stem = [] then (name, []) else (stem, '.' :: tail)

/-- The path with `suffix` for the suffix of its last name; none if there is no
    name. -/
def withSuffix? (p : Path) (suffix : String) : Option Path :=
  if p.name = "" then none
  else some { p with
    names := p.names.dropLast ++ [.ofList (splitSuffix p.name.toList).1 ++ suffix] }

/-- Whether a text is the name of a file, with nothing that leads elsewhere:
    reading it as a path gives it back as the last name. -/
def isBareName (s : String) : Bool :=
  s ≠ "" && (ofString s).name = s

/-- The path anchored at `base`, if it is not absolute. -/
def anchor (base p : Path) : Path :=
  if p.isAbsolute then p else base / p

end Path

end InstallerKit
