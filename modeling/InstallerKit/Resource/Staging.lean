import InstallerKit.Resource.Basic

/-!
# Staging

Staging saves resources into a directory, each under a name, in the order in
which they were added. The first one that fails ends it, and the fault says which
one it was. A resource of a caller's own may take the place of one of the
library's.
-/

namespace InstallerKit.Staging

/-- Something that can be saved. -/
inductive Item
  | resource (r : Resource)
  /-- A caller's own, which writes nothing, and either says whether it counts as
      saved or fails. -/
  | foreign (outcome : Except Fault Bool)

/-- Something to be saved under a name. -/
structure Entry where
  item : Item
  target : String

/-- Adds an entry. -/
def add (entries : List Entry) (item : Item) (target : String) : Except Problem (List Entry) :=
  if target = "" then .error .namelessResource else .ok (entries ++ [⟨item, target⟩])

/-- Saves an item. Answers whether it counts as saved. -/
def Item.save (dest : Path) : Item → Action Bool
  | .resource r => do return (← r.save dest).isSome
  | .foreign (.ok saved) => pure saved
  | .foreign (.error f) => throw f

/-- Whether a fault is one of saving: the system's, or of a content that is no
    text. Other faults are none of staging's business. -/
def isSavingFault (f : Fault) : Bool :=
  f.kind.isSystem || f.kind = .decoding

/-- The fault that staging makes of another one. -/
def wrap (target : String) (dest : Path) (f : Fault) : Fault :=
  if isSavingFault f then
    .causedBy (.unsaved target
      ("Failed to save resource '" ++ target ++ "' to " ++ dest.text ++ ": " ++ f.message)) f
  else f

/-- Saves an entry. Answers whether it counts as saved. -/
def Entry.save (dest : Path) (e : Entry) : Action Bool :=
  tryCatch
    (do
      Action.makeDirectories dest.parent
      e.item.save dest)
    fun f => throw (wrap e.target dest f)

/-- Saves entries into a directory. Answers the paths of those that count as
    saved. -/
def materialize (directory : Path) : List Entry → Action (List Path)
  | [] => pure []
  | e :: rest => do
    let dest := directory.child e.target
    let saved ← e.save dest
    let others ← materialize directory rest
    return if saved then dest :: others else others

end InstallerKit.Staging
