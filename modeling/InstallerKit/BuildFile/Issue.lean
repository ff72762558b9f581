import InstallerKit.Text.Ascii

/-!
# Issues in a build file

What is wrong with the content of a build file, and where. Several things may be
wrong at once, and all of them are reported.
-/

namespace InstallerKit.BuildFile

/-- A step from a datum into one of its members. -/
inductive Step
  | key (name : String)
  | index (i : Nat)
  deriving DecidableEq, Repr

/-- A step as a report shows it. -/
def Step.text : Step → String
  | .key name => name
  | .index i => toString i

/-- A step as it is written in a location. -/
def Step.literal : Step → String
  | .key name => Text.asciiQuoted name
  | .index i => toString i

/-- What is wrong with a datum. -/
inductive Complaint
  | notText
  | notPath
  | notList
  | notTable
  /-- No table, where one with fixed keys is needed. -/
  | notModel
  | missing
  /-- A key that does not belong there. -/
  | unknown
  /-- An element inside of too many others. -/
  | tooDeep
  /-- A datum of the right kind that breaks a rule. -/
  | invalid (rule : String)
  deriving DecidableEq, Repr

/-- The name of a complaint. -/
def Complaint.label : Complaint → String
  | notText => "string_type"
  | notPath => "path_type"
  | notList => "list_type"
  | notTable => "dict_type"
  | notModel => "model_type"
  | missing => "missing"
  | unknown => "extra_forbidden"
  | tooDeep => "recursion_depth_exceeded"
  | invalid _ => "value_error"

/-- What a complaint says beyond its name. -/
def Complaint.detail : Complaint → Option String
  | invalid rule => some ("Value error, " ++ rule)
  | _ => none

/-- A complaint and the datum that it is about. -/
structure Issue where
  /-- The steps from the whole content to the datum. -/
  location : List Step
  complaint : Complaint
  deriving DecidableEq, Repr

namespace Issue

/-- An issue on a line of its own. -/
def line (i : Issue) : String :=
  ".".intercalate (i.location.map Step.text) ++ ": " ++
    i.complaint.detail.getD i.complaint.label

/-- The location of an issue in writing. -/
def locationText (i : Issue) : String :=
  "[" ++ ", ".intercalate (i.location.map Step.literal) ++ "]"

/-- Whether an issue may come before another one: by their locations in writing, and
    by their complaints at the same location. -/
def precedes (i j : Issue) : Bool :=
  let (a, b) := (i.locationText, j.locationText)
  decide (a < b) || (a == b && decide (i.complaint.label ≤ j.complaint.label))

/-- Issues in an order that does not depend on how they were found. -/
def sorted (issues : List Issue) : List Issue :=
  issues.mergeSort precedes

/-- The heading of a report. -/
def heading (issues : List Issue) : String :=
  toString issues.length ++ " validation error" ++ (if issues.length = 1 then "" else "s") ++
    " for BuildConfig"

/-- A report of issues. -/
def report (issues : List Issue) : String :=
  "\n".intercalate (heading issues :: issues.map line)

end Issue

end InstallerKit.BuildFile
