import InstallerKit.Toml.Value

/-!
# TOML documents

A document is a sequence of statements, one a line. An equation sets a value; a
header in brackets opens the table that the equations after it belong to; a
header in double brackets appends a new table to a list, and opens it. No table
is opened twice, no value is set twice, and nothing is added to a complete one.

A key with full stops opens the tables on its way. That they have been opened is
held against later headers only, so equations under one header may share them.
-/

namespace InstallerKit.Toml

/-- What has been read of a document. -/
structure Draft where
  nest : Nest
  marks : Marks
  /-- The tables that will count as opened from the next header on. -/
  pending : List (List String)
  /-- The table that equations belong to. -/
  header : List String

namespace Draft

/-- Before the first statement. -/
def empty : Draft := ⟨[], .none, [], []⟩

/-- At a header, what is pending comes into force. -/
def settle (d : Draft) : Draft :=
  { d with
    marks := d.pending.foldl (fun ms chain => ms.add chain .opened) d.marks
    pending := [] }

/-- Opens a table. -/
def openTable (d : Draft) (key : List String) : Except Error Draft :=
  let d := d.settle
  if d.marks.isOpened key || d.marks.isFrozen key then .error .malformed
  else
    match d.nest.open? key with
    | none => .error .malformed
    | some nest => .ok { d with nest, marks := d.marks.add key .opened, header := key }

/-- Appends a table to a list and opens it. The tables in the one before it no
    longer stand in the way. -/
def appendTable (d : Draft) (key : List String) : Except Error Draft :=
  let d := d.settle
  if d.marks.isFrozen key then .error .malformed
  else
    match d.nest.append key.dropLast (key.getLast?.getD "") with
    | none => .error .malformed
    | some nest =>
      .ok { d with nest, marks := (d.marks.clear key).add key .opened, header := key }

/-- The chains that lead from the open table to the last name of a key, without
    either end. -/
def onTheWay (d : Draft) (key : List String) : List (List String) :=
  (List.range (key.length - 1)).map fun i => d.header ++ key.take (i + 1)

/-- Sets a value. -/
def set (d : Draft) (key : List String) (value : Datum) : Except Error Draft :=
  let parents := d.header ++ key.dropLast
  if (d.onTheWay key).any d.marks.isOpened || d.marks.isFrozen parents then .error .malformed
  else
    match d.nest.insert true parents (key.getLast?.getD "") value with
    | none => .error .malformed
    | some nest =>
      .ok { d with
        nest
        marks := if hasMembers value then d.marks.add (d.header ++ key) .frozen else d.marks
        pending := d.pending ++ d.onTheWay key }

/-- Makes a statement. Answers what is left after it. -/
def statement (d : Draft) (cs : List Char) : Except Error (Draft × List Char) :=
  match cs with
  | '[' :: '[' :: rest => do
    let (key, rest) ← readKey (skipSpace rest)
    let d ← d.appendTable key
    match rest with
    | ']' :: ']' :: rest => return (d, rest)
    | _ => .error .malformed
  | '[' :: rest => do
    let (key, rest) ← readKey (skipSpace rest)
    let d ← d.openTable key
    match rest with
    | ']' :: rest => return (d, rest)
    | _ => .error .malformed
  | c :: rest =>
    if startsKey c then do
      let ((key, value), rest) ← readEquation (c :: rest)
      return (← d.set key value, rest)
    else .ok (d, c :: rest)
  | [] => .ok (d, [])

/-- Reads the lines of a document, of which there are at most `fuel`. -/
def readLines : (fuel : Nat) → Draft → List Char → Except Error Draft
  | 0, d, _ => .ok d
  | fuel + 1, d, cs => do
    let (d, rest) ← d.statement (skipSpace cs)
    match ← skipComment (skipSpace rest) with
    | [] => return d
    | '\n' :: rest => readLines fuel d rest
    | _ => .error .malformed

end Draft

/-- The table that a document describes. -/
def parse (cs : List Char) : Except Error Nest := do
  return (← Draft.readLines (cs.length + 1) .empty cs).nest

end InstallerKit.Toml
