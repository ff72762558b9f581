import InstallerKit.Datum
import InstallerKit.Table

/-!
# Preprocessor variables

The variables that a source is compiled with. They are an ordered table, and
there is a difference between a table and none: before the first variable is
set there is no table at all. As a table that exists has at least one entry, the
absent table is the empty one.
-/

namespace InstallerKit

/-- Variables with their values. -/
structure Variables where
  table : Table String
  deriving DecidableEq, Repr

namespace Variables

/-- Why a variable is refused. -/
inductive Error
  /-- The name is empty or no text. -/
  | badName
  /-- The value is no text, but of another kind. -/
  | badValue (name kind : String)
  /-- No variable has a name of this kind. -/
  | badKey (kind : String)
  deriving DecidableEq, Repr

def Error.message : Error → String
  | .badName => "Variable names must be non-empty strings."
  | .badValue name kind =>
    "Value of variable '" ++ name ++ "' must be a string, got " ++ kind ++ "."
  | .badKey kind => "unhashable type: '" ++ kind ++ "'"

/-- No variables. -/
def none : Variables := ⟨.empty⟩

instance : Inhabited Variables := ⟨none⟩

/-- The value of a variable that is only defined. -/
def flag : String := "yes"

/-- Sets a variable. -/
def set (vs : Variables) (name value : Datum) : Except Error Variables :=
  match name, value with
  | .text n, .text v => if n = "" then .error .badName else .ok ⟨vs.table.set n v⟩
  | .text n, v => if n = "" then .error .badName else .error (.badValue n v.kind)
  | _, _ => .error .badName

/-- Defines a variable without a value of its own. -/
def define (vs : Variables) (name : Datum) : Except Error Variables :=
  vs.set name flag

/-- Whether any variable has been set. -/
def exist (vs : Variables) : Bool :=
  !vs.table.isEmpty

/-- The table, if there is one. -/
def values (vs : Variables) : Option (Table String) :=
  if vs.exist then some vs.table else Option.none

/-- Whether a name is set. Lists and tables cannot be looked up, unless there is
    nothing to look them up in. -/
def contains (vs : Variables) : Datum → Except Error Bool
  | .text name => .ok (vs.table.contains name)
  | .list items => if vs.exist then .error (.badKey (Datum.list items).kind) else .ok false
  | .dict entries => if vs.exist then .error (.badKey (Datum.dict entries).kind) else .ok false
  | _ => .ok false

def size (vs : Variables) : Nat :=
  vs.table.size

/-- The variables as they are shown. -/
def literal (vs : Variables) : String :=
  let table :=
    match vs.values with
    | some t => Datum.dict (t.entries.map fun (k, v) => (k, .text v))
    | Option.none => .null
  "WixVariables(" ++ table.literal ++ ")"

end Variables

end InstallerKit
