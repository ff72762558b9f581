import InstallerKit.Proofs.Fragment.Failure
import InstallerKit.Proofs.Keeping
import InstallerKit.Proofs.Variables

/-!
# Working with a builder

A builder is used by one operation after another, some of which fail; a failing operation
does not end the work. What an operation does depends on the builder and on the files, and a
plan takes no part in that: it is only told of sources, which it keeps. So two workspaces
that differ in their plans give the same replies for ever, and their plans go on to differ in
what they began with.

* `Workspace.step`: what one operation does, and its reply;
* `Workspace.becomes_step`: what it makes of the builder;
* `Workspace.keeps_after`: nothing that is there is taken away;
* `Workspace.plan_after`: a plan keeps what it has, and adds what it is told of;
* `Workspace.replies_with_plan`, `Workspace.after_with_plan`: the plan takes no part.
-/

namespace InstallerKit

/-! ### Plans -/

namespace Compiler.Plan

/-- The plan with more sources at its end. -/
def extend (plan : Plan) (sources : List Source) : Plan :=
  { plan with sources := plan.sources ++ sources }

@[simp] theorem extend_nil (plan : Plan) : plan.extend [] = plan := by
  rw [extend, List.append_nil]

theorem extend_extend (plan : Plan) (ss ts : List Source) :
    (plan.extend ss).extend ts = plan.extend (ss ++ ts) := by
  simp only [extend, List.append_assoc]

end Compiler.Plan

namespace Fragment

open Compiler (Plan Source)

/-! ### New builders -/

/-- What the kind of a builder decides, and who is told of its events. -/
structure Builder.Kind where
  fixedProducers : Option (List Producer)
  element : String
  delivery : Event → Option Fault

/-- A new builder of a kind. -/
def Builder.ofKind (k : Kind) (producers : List Producer) (version : Option Version) : Builder :=
  { Builder.new producers version with
    fixedProducers := k.fixedProducers
    element := k.element
    delivery := k.delivery }

/-- The builder with a version that is read from a text, or with none. -/
def Builder.setVersion (b : Builder) (text : Option String) : Except Problem Builder :=
  match text.mapM Version.parse with
  | .ok version => .ok { b with version }
  | .error e => .error (.version e)

theorem Builder.toOption_setVariable (b : Builder) (name value : Datum) :
    (b.setVariable name value).toOption =
      (Variables.setting? name value).map fun s =>
        { b with vars := ⟨b.vars.table.set s.1 s.2⟩ } := by
  have hresult := congrArg (Option.map fun vars => { b with vars }) (b.vars.toOption_set name value)
  rw [Option.map_map] at hresult
  rw [Builder.setVariable]
  refine Eq.trans ?_ hresult
  cases b.vars.set name value <;> rfl

/-! ### Operations -/

/-- What is done with a builder. -/
inductive Operation
  | addProducer (p : Producer)
  | setVersion (text : Option String)
  | configure (target : Target) (directory : Option Path)
  | defineVariable (name : Datum)
  | setVariable (name value : Datum)
  | addResource (item : Staging.Item) (target : String)
  | configurePlan
  | logFeatures
  | resolveOrigin (path : Path)
  | build
  /-- Asks a builder for all that it tells of itself. -/
  | inspect
  /-- Somebody else puts a file somewhere. -/
  | place (path : String) (content : List UInt8)

/-- The producer that an operation adds. -/
def Operation.producer? : Operation → Option Producer
  | .addProducer (.idle _) => none
  | .addProducer p => some p
  | _ => none

/-- The version that an operation sets, which may be none. -/
def Operation.version? : Operation → Option (Option Version)
  | .setVersion text => (text.mapM Version.parse).toOption
  | _ => none

/-- The setting of a variable that an operation makes, if it is one that is taken. -/
def Operation.setting? : Operation → Option (String × String)
  | .defineVariable name => Variables.setting? name Variables.flag
  | .setVariable name value => Variables.setting? name value
  | _ => none

/-- Whether an operation makes a builder forget its variables. -/
def Operation.isConfigure : Operation → Bool
  | .configure _ _ => true
  | _ => false

/-- The answer to an operation. -/
inductive Answer
  | done
  | refused (f : Fault)
  | features (available : Bool)
  | origin (o : Origin)
  | result (r : Result)
  | view (state : State) (target : Option Target) (values : Option (Table String))
      (resources : Option (List Staging.Entry)) (version : Option Version)
      (producers : List Producer)

/-- What an operation tells: its answer, and the records and events on the way. -/
structure Reply where
  answer : Answer
  records : List Record
  events : List Event

namespace Job

/-- What is left of a job, whether it fails or not. -/
def leaves {α : Type} (x : Job α) (v : Work) : Work :=
  match x v with
  | .ok _ v' => v'
  | .error _ v' => v'

theorem leaves_act {α : Type} (x : Builder → Action α) (v : Work) :
    (act x).leaves v = { v with session := (x v.builder).leaves v.session } := by
  rw [leaves, act, Action.leaves]
  cases x v.builder v.session <;> rfl

theorem session_leaves_build (b : Builder) (σ : Session) :
    (build.leaves ⟨b, σ⟩).session = b.build.leaves σ := by
  rw [leaves, Action.leaves, Builder.build]
  cases build ⟨b, σ⟩ <;> rfl

/-- A build leaves the builder as it is, or it has been configured, and has been built then. -/
theorem builder_leaves_build (b : Builder) (σ : Session) :
    (build.leaves ⟨b, σ⟩).builder = b ∨
      b.state ≠ .unconfigured ∧ (build.leaves ⟨b, σ⟩).builder = { b with state := .built } := by
  rw [leaves, build_eq]
  cases h : b.produce σ with
  | error f σ' => exact .inl rfl
  | ok r σ' =>
    have hbuild : b.build σ = .ok ({ b with state := .built }, r) σ' := by
      rw [Builder.build, build_eq, h]
    exact .inr ⟨(Builder.build_builder hbuild).2, rfl⟩

end Job

/-- A builder, the plan that it tells of its fragments, and the files. -/
structure Workspace where
  builder : Builder
  plan : Plan
  files : FileSystem

namespace Workspace

/-- Answers at once. -/
def answer (w : Workspace) (b : Builder) (a : Answer) : Workspace × Reply :=
  ({ w with builder := b }, ⟨a, [], []⟩)

/-- Changes the builder, unless that is refused. -/
def change (w : Workspace) : Except Problem Builder → Workspace × Reply
  | .ok b => w.answer b .done
  | .error p => w.answer w.builder (.refused (.of p))

/-- Changes the builder, even if that is refused. -/
def changeAnyway (w : Workspace) : Builder × Option Problem → Workspace × Reply
  | (b, none) => w.answer b .done
  | (b, some p) => w.answer b (.refused (.of p))

/-- Lets the builder do something, which may change it and the files even if it fails. -/
def act {α : Type} (w : Workspace) (x : Job α) (answer : α → Answer) : Workspace × Reply :=
  match x ⟨w.builder, ⟨w.files, [], []⟩⟩ with
  | .ok a v =>
    ({ w with builder := v.builder, files := v.session.files },
      ⟨answer a, v.session.records, v.session.events⟩)
  | .error f v =>
    ({ w with builder := v.builder, files := v.session.files },
      ⟨.refused f, v.session.records, v.session.events⟩)

/-- Does an operation. -/
def step (w : Workspace) : Operation → Workspace × Reply
  | .addProducer p => w.change (w.builder.addProducer p)
  | .setVersion text => w.change (w.builder.setVersion text)
  | .configure target directory =>
    w.changeAnyway (w.builder.configure w.files target directory)
  | .defineVariable name => w.change (w.builder.defineVariable name)
  | .setVariable name value => w.change (w.builder.setVariable name value)
  | .addResource item target => w.changeAnyway (w.builder.addResource item target)
  | .configurePlan =>
    match w.builder.configurePlan w.plan with
    | .ok plan => ({ w with plan }, ⟨.done, [], []⟩)
    | .error p => w.answer w.builder (.refused (.of p))
  | .logFeatures => w.act (.act fun b => b.logFeatures) .features
  | .resolveOrigin path => w.act (.act fun b => b.resolveOrigin path) .origin
  | .build => w.act .build .result
  | .inspect =>
    let b := w.builder
    w.answer b (.view b.state b.target b.vars.values b.resources b.version b.activeProducers)
  | .place path content => ({ w with files := w.files.place path content }, ⟨.done, [], []⟩)

/-- The workspace after some operations. -/
def after (w : Workspace) (ops : List Operation) : Workspace :=
  ops.foldl (fun w op => (w.step op).1) w

/-- The replies to some operations. -/
def replies : Workspace → List Operation → List Reply
  | _, [] => []
  | w, op :: ops => (w.step op).2 :: (w.step op).1.replies ops

theorem after_append (w : Workspace) (ops more : List Operation) :
    w.after (ops ++ more) = (w.after ops).after more :=
  List.foldl_append

/-! ### Builders -/

section Configure

variable {w : Workspace} {target : Target} {directory : Option Path}

theorem step_configure_of_ok {resolved : Target} (h : target.resolve w.files = .ok resolved) :
    w.step (.configure target directory) =
      ({ w with builder := { w.builder.forget with
          target := some resolved
          fragment := some (Builder.fragmentResource directory target.fileName)
          state := .configured } }, ⟨.done, [], []⟩) := by
  rw [step, Builder.configure, h]
  rfl

theorem step_configure_of_error {e : FileSystem.Error} (h : target.resolve w.files = .error e) :
    w.step (.configure target directory) =
      ({ w with builder := w.builder.forget }, ⟨.refused (.of (.file e)), [], []⟩) := by
  rw [step, Builder.configure, h]
  rfl

end Configure

/-- What an operation makes of a builder. -/
inductive Becomes (files : FileSystem) (b : Builder) : Operation → Builder → Prop
  | addProducer (p : Producer) (h : (Operation.addProducer p).producer? = some p) :
      Becomes files b (.addProducer p) { b with producers := b.producers ++ [p] }
  | setVersion {text : Option String} (version : Option Version)
      (h : (Operation.setVersion text).version? = some version) :
      Becomes files b (.setVersion text) { b with version }
  | configure {target resolved : Target} {directory : Option Path}
      (h : target.resolve files = .ok resolved) :
      Becomes files b (.configure target directory) { b.forget with
        target := some resolved
        fragment := some (Builder.fragmentResource directory target.fileName)
        state := .configured }
  /-- A target that cannot be resolved makes the builder forget all the same. -/
  | forget {target : Target} {directory : Option Path} {e : FileSystem.Error}
      (h : target.resolve files = .error e) :
      Becomes files b (.configure target directory) b.forget
  | defineVariable {name : Datum} {s : String × String}
      (h : (Operation.defineVariable name).setting? = some s) :
      Becomes files b (.defineVariable name) { b with vars := ⟨b.vars.table.set s.1 s.2⟩ }
  | setVariable {name value : Datum} {s : String × String}
      (h : (Operation.setVariable name value).setting? = some s) :
      Becomes files b (.setVariable name value) { b with vars := ⟨b.vars.table.set s.1 s.2⟩ }
  | addResource {item : Staging.Item} {target : String} (entries : List Staging.Entry) :
      Becomes files b (.addResource item target) { b with resources := some entries }
  | build (h : b.state ≠ .unconfigured) : Becomes files b .build { b with state := .built }
  /-- The operation fails, or does nothing to the builder. -/
  | same {op : Operation} (hproducer : op.producer? = none) (hversion : op.version? = none)
      (hsetting : op.setting? = none) (hconfigure : op.isConfigure = false) :
      Becomes files b op b

theorem change_builder (w : Workspace) (x : Except Problem Builder) :
    (w.change x).1.builder = x.toOption.getD w.builder := by
  cases x <;> rfl

section Act

variable {α : Type} (w : Workspace) (x : Job α) (answer : α → Answer)

theorem act_builder :
    (w.act x answer).1.builder = (x.leaves ⟨w.builder, ⟨w.files, [], []⟩⟩).builder := by
  rw [act, Job.leaves]
  cases x ⟨w.builder, ⟨w.files, [], []⟩⟩ <;> rfl

theorem act_files :
    (w.act x answer).1.files = (x.leaves ⟨w.builder, ⟨w.files, [], []⟩⟩).session.files := by
  rw [act, Job.leaves]
  cases x ⟨w.builder, ⟨w.files, [], []⟩⟩ <;> rfl

end Act

/-- What a step makes of the builder is read off the operation. -/
theorem becomes_step (w : Workspace) (op : Operation) :
    Becomes w.files w.builder op (w.step op).1.builder := by
  cases op with
  | addProducer p =>
    cases p with
    | idle d => exact .same rfl rfl rfl rfl
    | elements es => exact .addProducer _ rfl
    | script s => exact .addProducer _ rfl
  | setVersion text =>
    rw [step, Builder.setVersion]
    cases htext : text.mapM Version.parse with
    | ok version => exact .setVersion version (by rw [Operation.version?, htext]; rfl)
    | error e => exact .same rfl (by rw [Operation.version?, htext]; rfl) rfl rfl
  | configure target directory =>
    cases h : target.resolve w.files with
    | ok resolved =>
      rw [step_configure_of_ok h]
      exact .configure h
    | error e =>
      rw [step_configure_of_error h]
      exact .forget h
  | defineVariable name =>
    rw [step, change_builder, Builder.defineVariable, Builder.toOption_setVariable]
    cases hs : Variables.setting? name Variables.flag with
    | some s => exact .defineVariable hs
    | none => exact .same rfl rfl hs rfl
  | setVariable name value =>
    rw [step, change_builder, Builder.toOption_setVariable]
    cases hs : Variables.setting? name value with
    | some s => exact .setVariable hs
    | none => exact .same rfl rfl hs rfl
  | addResource item target =>
    rw [step, Builder.addResource]
    cases Staging.add (w.builder.resources.getD []) item target <;> exact .addResource _
  | configurePlan =>
    rw [step]
    split <;> exact .same rfl rfl rfl rfl
  | logFeatures =>
    rw [step, act_builder, Job.leaves_act]
    exact .same rfl rfl rfl rfl
  | resolveOrigin path =>
    rw [step, act_builder, Job.leaves_act]
    exact .same rfl rfl rfl rfl
  | build =>
    rw [step, act_builder]
    rcases Job.builder_leaves_build w.builder ⟨w.files, [], []⟩ with h | ⟨hstate, h⟩
    · rw [h]
      exact .same rfl rfl rfl rfl
    · rw [h]
      exact .build hstate
  | inspect => exact .same rfl rfl rfl rfl
  | place path content => exact .same rfl rfl rfl rfl

/-! ### Files -/

/-- Nothing that is there is taken away. -/
theorem keeps_step (w : Workspace) (op : Operation) : w.files.Keeps (w.step op).1.files := by
  have hchange (x : Except Problem Builder) : w.files.Keeps (w.change x).1.files := by
    cases x <;> exact .refl w.files
  have hanyway (x : Builder × Option Problem) : w.files.Keeps (w.changeAnyway x).1.files := by
    rcases x with ⟨b, _ | e⟩ <;> exact .refl w.files
  cases op with
  | addProducer p => exact hchange _
  | setVersion text => exact hchange _
  | configure target directory => exact hanyway _
  | defineVariable name => exact hchange _
  | setVariable name value => exact hchange _
  | addResource item target => exact hanyway _
  | configurePlan =>
    rw [step]
    split <;> exact .refl w.files
  | logFeatures =>
    rw [step, act_files, Job.leaves_act]
    exact w.builder.keepsFiles_logFeatures ⟨w.files, [], []⟩
  | resolveOrigin path =>
    rw [step, act_files, Job.leaves_act]
    exact w.builder.keepsFiles_resolveOrigin path ⟨w.files, [], []⟩
  | build =>
    rw [step, act_files, Job.session_leaves_build]
    exact w.builder.keepsFiles_build ⟨w.files, [], []⟩
  | inspect => exact .refl w.files
  | place path content => exact w.files.keeps_place path content

theorem keeps_after (w : Workspace) (ops : List Operation) :
    w.files.Keeps (w.after ops).files := by
  induction ops generalizing w with
  | nil => exact .refl w.files
  | cons op ops ih => exact (keeps_step w op).trans (ih (w.step op).1)

/-! ### Sources -/

variable (w : Workspace) (p : Plan)

/-- The sources that an operation tells the plan of. -/
def told (w : Workspace) : Operation → List Source
  | .configurePlan =>
    match w.builder.requireTarget with
    | .ok t => [⟨t.path, w.builder.vars.values⟩]
    | .error _ => []
  | _ => []

/-- The sources that some operations tell the plan of. -/
def toldAll : Workspace → List Operation → List Source
  | _, [] => []
  | w, op :: ops => w.told op ++ (w.step op).1.toldAll ops

section ConfigurePlan

variable {w}

theorem step_configurePlan_of_ok {t : Target} (h : w.builder.requireTarget = .ok t) :
    w.step .configurePlan =
      ({ w with plan := w.plan.extend [⟨t.path, w.builder.vars.values⟩] }, ⟨.done, [], []⟩) := by
  rw [step, Builder.configurePlan, h]
  rfl

theorem step_configurePlan_of_error {e : Problem} (h : w.builder.requireTarget = .error e) :
    w.step .configurePlan = (w, ⟨.refused (.of e), [], []⟩) := by
  rw [step, Builder.configurePlan, h]
  rfl

end ConfigurePlan

/-- With another plan an operation does the same, and tells that plan what it tells this
    one. -/
theorem step_with_plan (op : Operation) :
    ({ w with plan := p } : Workspace).step op =
      ({ (w.step op).1 with plan := p.extend (w.told op) }, (w.step op).2) := by
  -- Only one operation so much as looks at the plan.
  have hquiet {op : Operation} (htold : w.told op = [])
      (h : ({ w with plan := p } : Workspace).step op =
        ({ (w.step op).1 with plan := p }, (w.step op).2)) :
      ({ w with plan := p } : Workspace).step op =
        ({ (w.step op).1 with plan := p.extend (w.told op) }, (w.step op).2) := by
    rwa [htold, Plan.extend_nil]
  have hchange (x : Except Problem Builder) : ({ w with plan := p } : Workspace).change x =
      ({ (w.change x).1 with plan := p }, (w.change x).2) := by
    cases x <;> rfl
  have hanyway (x : Builder × Option Problem) :
      ({ w with plan := p } : Workspace).changeAnyway x =
        ({ (w.changeAnyway x).1 with plan := p }, (w.changeAnyway x).2) := by
    rcases x with ⟨b, _ | e⟩ <;> rfl
  have hact {α : Type} (x : Job α) (answer : α → Answer) :
      ({ w with plan := p } : Workspace).act x answer =
        ({ (w.act x answer).1 with plan := p }, (w.act x answer).2) := by
    rw [act, act]
    cases x ⟨w.builder, ⟨w.files, [], []⟩⟩ <;> rfl
  cases op with
  | addProducer q => exact hquiet rfl (hchange _)
  | setVersion text => exact hquiet rfl (hchange _)
  | configure target directory => exact hquiet rfl (hanyway _)
  | defineVariable name => exact hquiet rfl (hchange _)
  | setVariable name value => exact hquiet rfl (hchange _)
  | addResource item target => exact hquiet rfl (hanyway _)
  | configurePlan =>
    rw [told]
    cases h : w.builder.requireTarget with
    | ok t =>
      rw [step_configurePlan_of_ok h]
      exact step_configurePlan_of_ok (w := { w with plan := p }) h
    | error e =>
      rw [step_configurePlan_of_error h, Plan.extend_nil]
      exact step_configurePlan_of_error (w := { w with plan := p }) h
  | logFeatures => exact hquiet rfl (hact _ _)
  | resolveOrigin path => exact hquiet rfl (hact _ _)
  | build => exact hquiet rfl (hact _ _)
  | inspect => exact hquiet rfl rfl
  | place path content => exact hquiet rfl rfl

theorem plan_step (op : Operation) : (w.step op).1.plan = w.plan.extend (w.told op) :=
  congrArg (fun r => r.1.plan) (step_with_plan w w.plan op)

/-- A plan keeps what it has, and adds what it is told of. -/
theorem plan_after (ops : List Operation) : (w.after ops).plan = w.plan.extend (w.toldAll ops) := by
  induction ops generalizing w with
  | nil => exact (Plan.extend_nil w.plan).symm
  | cons op ops ih =>
    rw [toldAll, ← Plan.extend_extend, ← plan_step]
    exact ih (w.step op).1

/-- With another plan operations do the same, and tell that plan what they tell this one. -/
theorem after_with_plan (ops : List Operation) :
    ({ w with plan := p } : Workspace).after ops =
      { w.after ops with plan := p.extend (w.toldAll ops) } := by
  induction ops generalizing w p with
  | nil => rw [toldAll, Plan.extend_nil]; rfl
  | cons op ops ih =>
    rw [toldAll, ← Plan.extend_extend]
    refine Eq.trans ?_ (ih (w.step op).1 (p.extend (w.told op)))
    exact congrArg (fun r => r.1.after ops) (step_with_plan w p op)

theorem replies_with_plan (ops : List Operation) :
    ({ w with plan := p } : Workspace).replies ops = w.replies ops := by
  induction ops generalizing w p with
  | nil => rfl
  | cons op ops ih => rw [replies, replies, step_with_plan, ih]

end Workspace

end Fragment

end InstallerKit
