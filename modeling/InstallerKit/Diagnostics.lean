import InstallerKit.Datum
import InstallerKit.Table

/-!
# Diagnostics

What a build tells of itself: *records*, which are lines of a log, each with a
level, and *events*, which have a name and a payload of data. Some events have a
summary that can be shown or logged.
-/

namespace InstallerKit

/-- How serious a record is. -/
inductive Level
  | debug
  | info
  | warning
  | error
  | critical
  deriving DecidableEq, Repr

namespace Level

def label : Level → String
  | debug => "DEBUG"
  | info => "INFO"
  | warning => "WARNING"
  | error => "ERROR"
  | critical => "CRITICAL"

/-- The level with a label. -/
def ofLabel? (s : String) : Option Level :=
  [debug, info, warning, error, critical].find? fun l => l.label = s

/-- The order of the levels. -/
def rank : Level → Nat
  | debug => 10
  | info => 20
  | warning => 30
  | error => 40
  | critical => 50

/-- Whether records of this level are kept where `threshold` is the least level
    kept. -/
def reaches (l threshold : Level) : Bool :=
  threshold.rank ≤ l.rank

end Level

/-- A line of a log. -/
structure Record where
  level : Level
  text : String
  /-- The name of the kind of the fault that the record is about. -/
  fault : Option String
  deriving DecidableEq, Repr

/-- Something that happened. -/
structure Event where
  name : String
  payload : Table Datum
  deriving Repr

namespace Event

/-- A datum that has no members to count. -/
structure Uncountable where
  kind : String
  deriving DecidableEq, Repr

def Uncountable.message (e : Uncountable) : String :=
  "object of type '" ++ e.kind ++ "' has no len()"

/-- A datum of the payload; nothing stands for a missing one. -/
def datum (e : Event) (key : String) : Datum :=
  (e.payload.get? key).getD .null

/-- The path of the payload as it is shown. -/
def pathText (e : Event) : String :=
  if (e.datum "path").isNothing then "<unknown>" else (e.datum "path").display

/-- The ending of a noun after a number. -/
def plural (one : Bool) : String :=
  if one then "" else "s"

/-- The number of fragments as it is shown after the path, if it is given. -/
def countText (e : Event) : String :=
  match e.datum "fragments" with
  | .null => ""
  | n => " (" ++ n.display ++ " fragment" ++ plural n.isOne ++ ")"

/-- What there is to say of an event, if anything. -/
def summary (e : Event) : Except Uncountable (Option String) :=
  if e.name = "fragment_overridden" then .ok ("Using custom fragment: " ++ e.pathText)
  else if e.name = "fragment_generated" then
    .ok ("Generated fragment: " ++ e.pathText ++ e.countText)
  else if e.name = "resources_staged" then
    let paths := e.datum "paths"
    if paths.isNothing then .ok none
    else
      match paths.length? with
      | some n => .ok ("Staged " ++ toString n ++ " resource" ++ plural (n = 1))
      | none => .error ⟨paths.kind⟩
  else .ok none

/-- The record of an event: its summary, or all of it at a lower level. -/
def record (e : Event) : Except Uncountable Record :=
  e.summary.map fun
    | some s => ⟨.info, s, none⟩
    | none =>
      ⟨.debug, "diagnostic event " ++ e.name ++ ": " ++ (Datum.dict e.payload.entries).literal,
        none⟩

end Event

end InstallerKit
