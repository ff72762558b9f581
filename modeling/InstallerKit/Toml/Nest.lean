import InstallerKit.Datum
import InstallerKit.Table

/-!
# Nests

Tables within tables, reached by a chain of names. A name that is not there yet is
made to hold a new table. Where a list of tables is on the way, its last table is
the one that is meant, if lists may be passed at all.
-/

namespace InstallerKit.Toml

/-- The entries of a table. -/
abbrev Nest := List (String × Datum)

namespace Nest

/-- Changes the table at the end of a chain of names. Fails where something on
    the way is no table, or where the change does. -/
def modify (throughLists : Bool) (change : Nest → Option Nest) : List String → Nest → Option Nest
  | [], nest => change nest
  | name :: names, nest =>
    let enter (inner : Nest) : Option Datum := .dict <$> modify throughLists change names inner
    match nest.lookup name with
    | none => (Table.put name · nest) <$> enter []
    | some (.dict inner) => (Table.put name · nest) <$> enter inner
    | some (.list items) =>
      match throughLists, items.getLast? with
      | true, some (.dict inner) =>
        (fun d => Table.put name (.list (items.dropLast ++ [d])) nest) <$> enter inner
      | _, _ => none
    | some _ => none

/-- Gives a new name a value, in the table at the end of a chain. -/
def insert (throughLists : Bool) (parents : List String) (name : String) (d : Datum) :
    Nest → Option Nest :=
  modify throughLists
    (fun nest => if (nest.lookup name).isSome then none else some (Table.put name d nest)) parents

/-- Makes a table, unless it is there. -/
def open? (names : List String) : Nest → Option Nest :=
  modify true some names

/-- Appends a table to the list at a name, in the table at the end of a chain. -/
def append (parents : List String) (name : String) : Nest → Option Nest :=
  modify true
    (fun nest =>
      match nest.lookup name with
      | none => some (Table.put name (.list [.dict []]) nest)
      | some (.list items) => some (Table.put name (.list (items ++ [.dict []])) nest)
      | some _ => none)
    parents

end Nest

/-- What may no longer be done to a chain of names. -/
inductive Mark
  /-- The value is complete; nothing in it can be changed. -/
  | frozen
  /-- The table has been opened; it cannot be opened again. -/
  | opened
  deriving DecidableEq, Repr

/-- The marks on chains of names. -/
structure Marks where
  marks : List (List String × Mark)
  deriving Repr

namespace Marks

/-- No marks. -/
def none : Marks := ⟨[]⟩

/-- Marks a chain. -/
def add (ms : Marks) (chain : List String) (m : Mark) : Marks :=
  ⟨(chain, m) :: ms.marks⟩

/-- Removes the marks of a chain and of all that go on from it. -/
def clear (ms : Marks) (chain : List String) : Marks :=
  ⟨ms.marks.filter fun (c, _) => !chain.isPrefixOf c⟩

/-- Whether a chain is marked as opened. -/
def isOpened (ms : Marks) (chain : List String) : Bool :=
  ms.marks.any fun (c, m) => m = .opened && c = chain

/-- Whether a chain or one that it goes on from is marked as frozen. -/
def isFrozen (ms : Marks) (chain : List String) : Bool :=
  ms.marks.any fun (c, m) => m = .frozen && c.isPrefixOf chain

end Marks

end InstallerKit.Toml
