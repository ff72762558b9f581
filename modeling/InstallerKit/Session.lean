import InstallerKit.Diagnostics
import InstallerKit.Fault.Basic
import InstallerKit.FileSystem.Basic

/-!
# Sessions

What an action works on: the file system, and the records and events so far. An
action answers with a value or fails with a fault; a failing action keeps what it
has already changed.
-/

namespace InstallerKit

/-- The surroundings of an action. -/
structure Session where
  files : FileSystem
  /-- The log, oldest record first. -/
  records : List Record
  /-- The events, oldest first. -/
  events : List Event

/-- Something that works on a session and may fail. -/
abbrev Action := EStateM Fault Session

namespace Action

/-- Fails with a problem without a history. -/
def problem {α : Type} (p : Problem) : Action α :=
  throw (.of p)

/-- The value of a result, or its refusal as a fault. -/
def lift {ε α : Type} (toProblem : ε → Problem) : Except ε α → Action α
  | .ok a => pure a
  | .error e => problem (toProblem e)

/-- Adds a record to the log. -/
def log (level : Level) (text : String) : Action Unit :=
  modify fun s => { s with records := s.records ++ [⟨level, text, none⟩] }

/-- Adds an event. -/
def note (e : Event) : Action Unit :=
  modify fun s => { s with events := s.events ++ [e] }

/-- Asks the file system. -/
def ask {α : Type} (question : FileSystem → Except FileSystem.Error α) : Action α := do
  lift .file (question (← get).files)

/-- Changes the file system, or leaves it. -/
def change (f : FileSystem → Except FileSystem.Error FileSystem) : Action Unit := do
  let files ← ask f
  modify fun s => { s with files }

/-- Makes a directory and those above it. -/
def makeDirectories (p : Path) : Action Unit := do
  let (files, failure) := (← get).files.makeDirectories p
  modify fun s => { s with files }
  match failure with
  | some f => throw (.ofFailure f)
  | none => pure ()

end Action

end InstallerKit
