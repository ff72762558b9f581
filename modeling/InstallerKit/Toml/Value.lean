import InstallerKit.Toml.Nest
import InstallerKit.Toml.Scalar
import InstallerKit.Toml.Text

/-!
# Values

A value is a text, a truth value, a list, a table on one line, or a scalar. Lists
may go over several lines and hold comments. The tables and lists in a table on
one line are complete when they are closed: later entries cannot add to them.

Lists and tables on one line may be inside each other, but not without end. Each
takes some of a room that is given to the outermost value.
-/

namespace InstallerKit.Toml

/-- Skips spaces, line ends and comments, of which there are at most `fuel`. -/
def skipGapFrom : (fuel : Nat) → List Char → Except Error (List Char)
  | 0, cs => .ok cs
  | fuel + 1, cs =>
    match cs.dropWhile fun c => isSpace c || c = '\n' with
    | '#' :: rest => do skipGapFrom fuel (← skipComment ('#' :: rest))
    | rest => .ok rest

/-- Skips spaces, line ends and comments. -/
def skipGap (cs : List Char) : Except Error (List Char) :=
  skipGapFrom (cs.length + 1) cs

/-- Whether a value has members. -/
def hasMembers : Datum → Bool
  | .list _ => true
  | .dict _ => true
  | _ => false

/-- The entry of a table on one line. Only complete values are in the way of
    it. -/
def addEntry (nest : Nest) (marks : Marks) (key : List String) (d : Datum) :
    Except Error (Nest × Marks) :=
  if marks.isFrozen key then .error .malformed
  else
    match nest.insert false key.dropLast (key.getLast?.getD "") d with
    | none => .error .malformed
    | some nest => .ok (nest, if hasMembers d then marks.add key .frozen else marks)

/-- The room that a list takes. -/
def listRoom : Nat := 2

/-- The room that a table on one line takes. -/
def tableRoom : Nat := 3

/-- The room for the lists and tables of a value. -/
def maxRoom : Nat := 988

/-- What is left of a room, if there is enough of it. -/
def takeRoom (room part : Nat) : Except Error Nat :=
  if room < part then .error .tooDeep else .ok (room - part)

mutual

/-- A value with so much room, read in at most `fuel` steps. -/
def readValueFrom : (fuel room : Nat) → List Char → Except Error (Datum × List Char)
  | 0, _, _ => .error .malformed
  | fuel + 1, room, cs =>
    match readText? cs with
    | some r => do
      let (s, rest) ← r
      return (.text s, rest)
    | none =>
      match cs with
      | 't' :: 'r' :: 'u' :: 'e' :: rest => .ok (.truth true, rest)
      | 'f' :: 'a' :: 'l' :: 's' :: 'e' :: rest => .ok (.truth false, rest)
      | '[' :: rest => do
        let (items, rest) ← readItemsFrom fuel (← takeRoom room listRoom) rest
        return (.list items, rest)
      | '\x7b' :: rest => do
        let room ← takeRoom room tableRoom
        match skipSpace rest with
        | '\x7d' :: rest => return (.dict [], rest)
        | rest =>
          let (nest, rest) ← readEntriesFrom fuel room [] .none rest
          return (.dict nest, rest)
      | _ => readScalar cs

/-- The items of a list and what closes it, each item with so much room, read in at
    most `fuel` steps. -/
def readItemsFrom : (fuel room : Nat) → List Char → Except Error (List Datum × List Char)
  | 0, _, _ => .error .malformed
  | fuel + 1, room, cs => do
    match ← skipGap cs with
    | ']' :: rest => return ([], rest)
    | start =>
      let (d, rest) ← readValueFrom fuel room start
      match ← skipGap rest with
      | ']' :: rest => return ([d], rest)
      | ',' :: rest =>
        let (ds, rest) ← readItemsFrom fuel room rest
        return (d :: ds, rest)
      | _ => .error .malformed

/-- The entries of a table on one line and what closes it, each value with so much
    room, read in at most `fuel` steps. -/
def readEntriesFrom : (fuel room : Nat) → Nest → Marks → List Char →
    Except Error (Nest × List Char)
  | 0, _, _, _, _ => .error .malformed
  | fuel + 1, room, nest, marks, cs => do
    let (key, rest) ← readKey cs
    match rest with
    | '=' :: rest =>
      let (d, rest) ← readValueFrom fuel room (skipSpace rest)
      let (nest, marks) ← addEntry nest marks key d
      match skipSpace rest with
      | '\x7d' :: rest => return (nest, rest)
      | ',' :: rest => readEntriesFrom fuel room nest marks (skipSpace rest)
      | _ => .error .malformed
    | _ => .error .malformed

end

/-- A value. Every step but the first of two in a row takes a character away. -/
def readValue (cs : List Char) : Except Error (Datum × List Char) :=
  readValueFrom (2 * cs.length + 2) maxRoom cs

/-- An equation: a key and its value. -/
def readEquation (cs : List Char) : Except Error ((List String × Datum) × List Char) := do
  let (key, rest) ← readKey cs
  match rest with
  | '=' :: rest =>
    let (d, rest) ← readValue (skipSpace rest)
    return ((key, d), rest)
  | _ => .error .malformed

end InstallerKit.Toml
