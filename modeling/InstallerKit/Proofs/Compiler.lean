import InstallerKit.Compiler

/-!
# Commands of a plan

Every source with a name has a command, and the commands come in the order of the sources. A
command ends with the definitions of the variables, one for each name of their table and in
its order; what comes before them is the same whatever the variables are.

* `Compiler.Plan.command_eq`: the command of a source;
* `Compiler.Plan.commands_eq`: the commands of a plan.
-/

namespace InstallerKit

namespace Compiler

variable {s : Source}

/-- The name of the object file of a source that has a name. -/
def Source.object (s : Source) : String :=
  .ofList (Path.splitSuffix s.path.name.toList).1 ++ ".wixobj"

/-- The definitions of the variables of a source. -/
def Source.definitions (s : Source) : List String :=
  match s.vars with
  | some t => t.entries.map fun (name, value) => Plan.definition name value
  | none => []

theorem Source.definitions_eq (s : Source) :
    s.definitions = (s.vars.elim [] Table.entries).map fun (name, value) =>
      "-d" ++ name ++ "=" ++ value := by
  unfold definitions
  cases s.vars <;> rfl

theorem Source.objectName_eq (h : s.path.name ≠ "") : s.objectName = .ok s.object := by
  rw [objectName, Path.withSuffix?, if_neg h, object]
  simp [Path.name, List.getLast?_append]

namespace Plan

/-- The command of a source up to the definitions. -/
def invocation (plan : Plan) (directory : Path) (s : Source) : List String :=
  [plan.candle, "-nologo", s.path.text] ++ plan.extensions.flatMap (fun e => ["-ext", e]) ++
    ["-arch", plan.arch, "-out", (directory.child s.object).text]

variable (plan : Plan) (directory : Path)

theorem command_eq (h : s.path.name ≠ "") :
    plan.command directory s = .ok (plan.invocation directory s ++ s.definitions) := by
  rw [command, Source.objectName_eq h]
  rfl

/-- There is a command for every source. -/
theorem commandsFor_eq {sources : List Source} (h : ∀ s ∈ sources, s.path.name ≠ "") :
    plan.commandsFor directory sources =
      (sources.map fun s => plan.invocation directory s ++ s.definitions, none) := by
  induction sources with
  | nil => rfl
  | cons s rest ih =>
    rw [List.forall_mem_cons] at h
    rw [commandsFor, command_eq plan directory h.1, ih h.2]
    rfl

theorem commands_eq (h : ∀ s ∈ plan.sources, s.path.name ≠ "") :
    plan.commands directory =
      (plan.sources.map fun s => plan.invocation directory s ++ s.definitions, none) :=
  commandsFor_eq plan directory h

end Plan

end Compiler

end InstallerKit
