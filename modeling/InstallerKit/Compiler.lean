import InstallerKit.Path
import InstallerKit.Table

/-!
# Compiler commands

A plan collects sources, each with the variables it is to be compiled with, and
gives the command line of the compiler for each of them. A source without a name
has no object file to be compiled to; the commands end there.
-/

namespace InstallerKit.Compiler

/-- A source with its variables. -/
structure Source where
  path : Path
  vars : Option (Table String)
  deriving DecidableEq, Repr

/-- A path without a name, where one is needed. -/
structure NamelessPath where
  path : Path
  deriving DecidableEq, Repr

def NamelessPath.message (e : NamelessPath) : String :=
  "PosixPath(" ++ e.path.quoted ++ ") has an empty name"

/-- The name of the object file of a source. -/
def Source.objectName (s : Source) : Except NamelessPath String :=
  match s.path.withSuffix? ".wixobj" with
  | some p => .ok p.name
  | none => .error ⟨s.path⟩

/-- The sources to compile, and how. -/
structure Plan where
  candle : String
  arch : String
  extensions : List String
  sources : List Source
  deriving DecidableEq, Repr

namespace Plan

/-- The extensions that the compiler always loads. -/
def defaultExtensions : List String := ["WixUtilExtension"]

/-- A plan without sources. -/
def new : Plan := ⟨"candle.exe", "x64", defaultExtensions, []⟩

/-- Adds a source at the end. -/
def add (plan : Plan) (path : Path) (vars : Option (Table String)) : Plan :=
  { plan with sources := plan.sources ++ [⟨path, vars⟩] }

/-- The definition of a variable on the command line. -/
def definition (name value : String) : String :=
  "-d" ++ name ++ "=" ++ value

/-- The command for a source, with its object file in a directory. -/
def command (plan : Plan) (directory : Path) (s : Source) :
    Except NamelessPath (List String) := do
  let object ← s.objectName
  return [plan.candle, "-nologo", s.path.text] ++
    plan.extensions.flatMap (fun e => ["-ext", e]) ++
    ["-arch", plan.arch, "-out", (directory.child object).text] ++
    match s.vars with
    | some t => t.entries.map fun (name, value) => definition name value
    | none => []

/-- The commands for some sources, and what ended them early. -/
def commandsFor (plan : Plan) (directory : Path) :
    List Source → List (List String) × Option NamelessPath
  | [] => ([], none)
  | s :: rest =>
    match plan.command directory s with
    | .ok c =>
      let (cs, e) := commandsFor plan directory rest
      (c :: cs, e)
    | .error e => ([], some e)

/-- The commands of a plan, and what ended them early. -/
def commands (plan : Plan) (directory : Path) : List (List String) × Option NamelessPath :=
  plan.commandsFor directory plan.sources

end Plan

end InstallerKit.Compiler
