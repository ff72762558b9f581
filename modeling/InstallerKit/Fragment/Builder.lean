import InstallerKit.Fragment.Source
import InstallerKit.Fragment.Target
import InstallerKit.Resource.Staging

/-!
# Builders

A builder is *configured* with a target, then given variables and resources, and
then *built*: the fragment is written, or taken from the resource directory if
there is a file of its name, and the resources are staged next to it. Configuring
anew forgets the variables and the resources, but not the producers.

Configuring starts with forgetting. If it then fails, the target stays what it
was, but the variables and resources are gone. Building changes the builder last, so
that it stays what it was if it fails.
-/

namespace InstallerKit.Fragment

/-- How far a builder has come. -/
inductive State
  | unconfigured
  | configured
  | built
  deriving DecidableEq, Repr

/-- The name of a state. -/
def State.label : State → String
  | unconfigured => "unconfigured"
  | configured => "configured"
  | built => "built"

/-- Where a fragment came from. -/
inductive Origin
  /-- From the resource directory. -/
  | override
  | generated
  deriving DecidableEq, Repr

/-- The name of an origin. -/
def Origin.label : Origin → String
  | .override => "override"
  | .generated => "generated"

/-- What a build has made. -/
structure Result where
  path : Path
  origin : Origin
  /-- The resources that count as saved. -/
  resources : List Path
  deriving DecidableEq, Repr

/-- A builder. -/
structure Builder where
  producers : List Producer
  /-- Producers to be used in the place of the others. -/
  fixedProducers : Option (List Producer)
  /-- The name of a fragment's element. -/
  element : String
  version : Option Version
  /-- Whether the delivery of an event fails. -/
  delivery : Event → Option Fault
  state : State
  target : Option Target
  vars : Variables
  /-- The resources to stage; none if there have never been any. -/
  resources : Option (List Staging.Entry)
  /-- The fragment as a resource, which has no default content. -/
  fragment : Option Resource

namespace Builder

/-- A builder that has not been configured. -/
def new (producers : List Producer) (version : Option Version) : Builder where
  producers
  fixedProducers := none
  element := fragmentElement
  version
  delivery := fun _ => none
  state := .unconfigured
  target := none
  vars := .none
  resources := none
  fragment := none

/-- The producers that a build uses. -/
def activeProducers (b : Builder) : List Producer :=
  b.fixedProducers.getD b.producers

/-- Adds a producer at the end. -/
def addProducer (b : Builder) : Producer → Except Problem Builder
  | .idle d => .error (.badProducer d.kind)
  | p => .ok { b with producers := b.producers ++ [p] }

/-- A builder without variables and resources. -/
def forget (b : Builder) : Builder :=
  { b with vars := .none, resources := none }

/-- The fragment as a resource of a directory. -/
def fragmentResource (directory : Option Path) (fileName : String) : Resource :=
  { Resource.empty with
    directory
    publicName := some fileName
    category := some "fragment"
    order := [.directory] }

/-- Configures a builder. It has changed even if that fails. -/
def configure (b : Builder) (fs : FileSystem) (target : Target) (directory : Option Path) :
    Builder × Option Problem :=
  match target.resolve fs with
  | .error e => (b.forget, some (.file e))
  | .ok resolved =>
    ({ b.forget with
        target := some resolved
        fragment := some (fragmentResource directory target.fileName)
        state := .configured }, none)

/-- Sets a variable. -/
def setVariable (b : Builder) (name value : Datum) : Except Problem Builder :=
  match b.vars.set name value with
  | .ok vars => .ok { b with vars }
  | .error e => .error (.badVariable e)

/-- Defines a variable without a value of its own. -/
def defineVariable (b : Builder) (name : Datum) : Except Problem Builder :=
  b.setVariable name Variables.flag

/-- Adds a resource to stage. Even if that fails there are now resources, if
    only none of them. -/
def addResource (b : Builder) (item : Staging.Item) (target : String) :
    Builder × Option Problem :=
  let entries := b.resources.getD []
  match Staging.add entries item target with
  | .ok entries => ({ b with resources := some entries }, none)
  | .error e => ({ b with resources := some entries }, some e)

/-- The target of a builder that has been configured. -/
def requireTarget (b : Builder) : Except Problem Target :=
  match b.state, b.target with
  | .unconfigured, _ | _, none => .error .unconfigured
  | _, some t => .ok t

/-- Adds the fragment with its variables to a plan. -/
def configurePlan (b : Builder) (plan : Compiler.Plan) : Except Problem Compiler.Plan := do
  let target ← b.requireTarget
  return plan.add target.path b.vars.values

/-- Logs the optional features of the version, and answers whether there are
    any. -/
def logFeatures (b : Builder) : Action Bool := do
  match b.version with
  | none => return false
  | some v =>
    if v.hasFeatures then
      Action.log .info v.announcement
      return true
    else return false

/-- Adds an event and delivers it. -/
def emit (b : Builder) (e : Event) : Action Unit := do
  Action.note e
  match b.delivery e with
  | some f => throw f
  | none => pure ()

/-- Saves the fragment of the resource directory, if there is one, and answers
    where the fragment comes from. -/
def resolveOrigin (b : Builder) (path : Path) : Action Origin := do
  match b.fragment with
  | none => return .generated
  | some r => return if (← r.save path).isSome then .override else .generated

/-- Writes the fragment. Answers where it comes from. -/
def writeFragment (b : Builder) (path : Path) : Action Origin := do
  match ← b.resolveOrigin path with
  | .override =>
    Action.log .debug ("Fragment " ++ path.text ++ " supplied by the resource directory")
    b.emit ⟨"fragment_overridden", .ofList [("path", .text path.text)]⟩
    return .override
  | .generated =>
    let producers := b.activeProducers
    createSource path (Producer.fragments b.element producers)
    b.emit ⟨"fragment_generated",
      .ofList [("path", .text path.text), ("fragments", .integer producers.length)]⟩
    return .generated

/-- Stages the resources, if there have ever been any. -/
def stage (b : Builder) (directory : Path) : Action (List Path) := do
  match b.resources with
  | none => return []
  | some entries =>
    let paths ← Staging.materialize directory entries
    b.emit ⟨"resources_staged", .ofList [("paths", .list (paths.map fun p => .text p.text))]⟩
    return paths

end Builder

/-- A builder, and the session that it works in. -/
structure Work where
  builder : Builder
  session : Session

/-- Something that a builder does, in its session and to itself. Where it fails, all
    that it has changed until then stays changed. -/
abbrev Job := EStateM Fault Work

namespace Job

/-- Does something in the session. -/
def act {α : Type} (x : Builder → Action α) : Job α := fun w =>
  match x w.builder w.session with
  | .ok a session => .ok a { w with session }
  | .error f session => .error f { w with session }

/-- Changes the builder. -/
def change (f : Builder → Builder) : Job Unit :=
  modify fun w => { w with builder := f w.builder }

/-- Builds: writes the fragment, stages the resources, and takes note of it. -/
def build : Job Result := do
  let target ← act fun b => Action.lift id b.requireTarget
  let origin ← act fun b => b.writeFragment target.path
  let resources ← act fun b => b.stage target.directory
  change fun b => { b with state := .built }
  return ⟨target.path, origin, resources⟩

end Job

namespace Builder

/-- A build, with the builder and the session afterwards. -/
def attempt (b : Builder) (σ : Session) : Builder × Session × Except Fault Result :=
  match Job.build ⟨b, σ⟩ with
  | .ok r w => (w.builder, w.session, .ok r)
  | .error f w => (w.builder, w.session, .error f)

/-- A build for those who go on with the builder only if it does not fail. -/
def build (b : Builder) : Action (Builder × Result) := fun σ =>
  match Job.build ⟨b, σ⟩ with
  | .ok r w => .ok (w.builder, r) w.session
  | .error f w => .error f w.session

/-- What a build does in the session. -/
def produce (b : Builder) : Action Result := do
  let target ← Action.lift id b.requireTarget
  let origin ← b.writeFragment target.path
  let resources ← b.stage target.directory
  return ⟨target.path, origin, resources⟩

end Builder

/-- A build changes the state of the builder, and only if it does not fail. -/
theorem Job.build_eq (b : Builder) (σ : Session) :
    build ⟨b, σ⟩ =
      match b.produce σ with
      | .ok r σ' => .ok r ⟨{ b with state := .built }, σ'⟩
      | .error f σ' => .error f ⟨b, σ'⟩ := by
  simp only [build, act, Builder.produce, bind, EStateM.bind]
  cases Action.lift id b.requireTarget σ with
  | error f σ₁ => rfl
  | ok target σ₁ =>
    simp only
    cases b.writeFragment target.path σ₁ with
    | error f σ₂ => rfl
    | ok origin σ₂ =>
      simp only
      cases b.stage target.directory σ₂ <;> rfl

namespace Builder

/-- The builder is the one before if a build fails. -/
theorem attempt_eq (b : Builder) (σ : Session) :
    b.attempt σ =
      match b.build σ with
      | .ok (b', r) σ' => (b', σ', .ok r)
      | .error f σ' => (b, σ', .error f) := by
  rw [attempt, build, Job.build_eq]
  cases b.produce σ <;> rfl

theorem build_eq (b : Builder) : b.build = do
    let target ← Action.lift id b.requireTarget
    let origin ← b.writeFragment target.path
    let resources ← b.stage target.directory
    return ({ b with state := .built }, ⟨target.path, origin, resources⟩) := by
  have hproduce : b.build = do
      let r ← b.produce
      return ({ b with state := .built }, r) := by
    funext σ
    rw [build, Job.build_eq]
    simp only [bind, EStateM.bind]
    cases b.produce σ <;> rfl
  rw [hproduce, produce]
  simp only [bind_assoc, pure_bind]

end Builder

end InstallerKit.Fragment
