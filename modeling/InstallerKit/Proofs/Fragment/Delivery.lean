import InstallerKit.BuildFile.Basic
import InstallerKit.Proofs.Fragment.Outcome

/-!
# The delivery of events

A build delivers two events: that of the fragment, once it is written, and that of the
resources, once they are staged. Delivery is the last step that can fail for a reason outside
of the build, and there is nothing else for which it matters. So a build whose events are
delivered does the same as one that delivers nothing at all; and if the event of the fragment
is not delivered, the build ends with the fragment written and no resource staged.

* `announce`, `build_eq_announce`: a build up to the event of its fragment, and after it;
* `ending_complete_of_delivered`, `ending_complete_of_undelivered`: what comes of a build;
* `toBuilder_eq_map`: the delivery of a builder that is made of a build file.
-/

namespace InstallerKit

/-! ### Endings -/

namespace Action

variable {α β γ : Type} {σ : Session}

/-- Whether an action has ended well, and the files that it has left. -/
def ending : EStateM.Result Fault Session α → Bool × FileSystem
  | .ok _ σ => (true, σ.files)
  | .error _ σ => (false, σ.files)

theorem ending_bind_congr {f : α → Action β} {g : α → Action γ}
    (h : ∀ a σ, ending (f a σ) = ending (g a σ)) (x : Action α) (σ : Session) :
    ending ((x >>= f) σ) = ending ((x >>= g) σ) := by
  cases hx : x σ with
  | ok a σ' => rw [bind_of_ok hx, bind_of_ok hx, h]
  | error e σ' => rw [bind_of_error hx, bind_of_error hx]; rfl

theorem ending_bind_of_error {x : Action α} {e : Fault} {σ' : Session} (h : x σ = .error e σ')
    (f : α → Action β) : ending ((x >>= f) σ) = (false, σ'.files) := by
  rw [bind_of_error h]
  rfl

end Action

open InstallerKit.Action

namespace Fragment.Builder

variable {b : Builder} {d : Event → Option Fault} {e : Event} {t : Target} {origin : Origin}

/-- The builder with another delivery. -/
def delivering (d : Event → Option Fault) (b : Builder) : Builder :=
  { b with delivery := d }

/-- Writes the fragment, but does not deliver its event. Answers the target and where the
    fragment comes from. -/
def announce (b : Builder) : Action (Target × Origin) := do
  let t ← Action.lift id b.requireTarget
  match ← b.resolveOrigin t.path with
  | .override =>
    Action.log .debug ("Fragment " ++ t.path.text ++ " supplied by the resource directory")
    return (t, .override)
  | .generated =>
    createSource t.path (Producer.fragments b.element b.activeProducers)
    return (t, .generated)

/-- Delivers the event of the fragment, and stages the resources. -/
def complete (b : Builder) (t : Target) (origin : Origin) : Action (Builder × Result) := do
  b.emit (b.fragmentEvent t.path origin)
  let resources ← b.stage t.directory
  return ({ b with state := .built }, ⟨t.path, origin, resources⟩)

theorem build_eq_announce (b : Builder) :
    b.build = b.announce >>= fun announced => b.complete announced.1 announced.2 := by
  rw [build_eq, announce, bind_assoc]
  congr 1
  funext t
  rw [writeFragment, bind_assoc, bind_assoc]
  congr 1
  funext origin
  -- Wherever the fragment comes from, its event is delivered last.
  cases origin with
  | override => simp only [bind_assoc, pure_bind]; rfl
  | generated => simp only [bind_assoc, pure_bind]; rfl

theorem announce_delivering (d : Event → Option Fault) (b : Builder) :
    (b.delivering d).announce = b.announce :=
  rfl

/-- The builder with a delivery that never fails. -/
def silent (b : Builder) : Builder :=
  b.delivering fun _ => none

theorem emit_delivering (b : Builder) (h : d e = none) :
    (b.delivering d).emit e = b.silent.emit e := by
  simp only [emit, silent, delivering, h]

theorem stage_delivering (b : Builder) (h : ∀ paths, d (stagedEvent paths) = none)
    (directory : Path) : (b.delivering d).stage directory = b.silent.stage directory := by
  have hresources : (b.delivering d).resources = b.silent.resources := rfl
  rw [stage, stage, hresources]
  cases b.silent.resources with
  | none => rfl
  | some entries =>
    dsimp only
    congr 1
    funext paths
    exact congrArg (· >>= _) (emit_delivering b (h paths))

theorem ending_complete_of_delivered (b : Builder) (h : d (b.fragmentEvent t.path origin) = none)
    (hstaged : ∀ paths, d (stagedEvent paths) = none) (σ : Session) :
    ending ((b.delivering d).complete t origin σ) = ending (b.silent.complete t origin σ) := by
  have hemit : (b.delivering d).emit ((b.delivering d).fragmentEvent t.path origin) =
      b.silent.emit (b.silent.fragmentEvent t.path origin) :=
    emit_delivering b h
  rw [complete, complete, hemit, stage_delivering b hstaged]
  -- The same is done now. Only the builders that are answered still differ, in their delivery.
  refine ending_bind_congr (fun _ σ' => ?_) _ σ
  refine ending_bind_congr (fun paths σ'' => ?_) _ σ'
  rfl

theorem ending_complete_of_undelivered (b : Builder) {f : Fault}
    (h : b.delivery (b.fragmentEvent t.path origin) = some f) (σ : Session) :
    ending (b.complete t origin σ) = (false, σ.files) := by
  have hemit : b.emit (b.fragmentEvent t.path origin) σ =
      .error f { σ with events := σ.events ++ [b.fragmentEvent t.path origin] } := by
    rw [emit, h]
    rfl
  exact ending_bind_of_error hemit _

end Fragment.Builder

/-! ### Builders of build files -/

namespace BuildFile

open Fragment (Builder)

variable {ε α β γ δ : Type}

theorem bind_of_commutes {x : Except ε α} {x' : Except ε β} {f : α → Except ε γ}
    {f' : β → Except ε δ} {g : α → β} {g' : γ → δ} (hx : x' = x.map g)
    (hf : ∀ a, f' (g a) = (f a).map g') : x' >>= f' = (x >>= f).map g' := by
  rw [hx]
  cases x with
  | ok a => exact hf a
  | error e => rfl

theorem foldlM_of_commutes {f : β → α → Except ε β} {g : β → β}
    (h : ∀ b a, f (g b) a = (f b a).map g) (b : β) (xs : List α) :
    xs.foldlM f (g b) = (xs.foldlM f b).map g := by
  induction xs generalizing b with
  | nil => rfl
  | cons a xs ih =>
    rw [List.foldlM_cons, List.foldlM_cons, h]
    exact bind_of_commutes rfl ih

variable (d : Event → Option Fault) (builder : Builder)

theorem newBuilder_eq_map (b : BuildFile) :
    b.newBuilder d = (b.newBuilder fun _ => none).map (Builder.delivering d) := by
  rw [newBuilder, newBuilder]
  cases (b.version.mapM Version.parse).mapError Problem.version <;> rfl

theorem setVariable_delivering (name value : Datum) :
    (builder.delivering d).setVariable name value =
      (builder.setVariable name value).map (Builder.delivering d) := by
  have hvars : (builder.delivering d).vars = builder.vars := rfl
  rw [Builder.setVariable, Builder.setVariable, hvars]
  cases builder.vars.set name value <;> rfl

theorem checked_configure_delivering (fs : FileSystem) (target : Fragment.Target)
    (directory : Option Path) :
    checked ((builder.delivering d).configure fs target directory) =
      (checked (builder.configure fs target directory)).map (Builder.delivering d) := by
  rw [Builder.configure, Builder.configure]
  cases target.resolve fs <;> rfl

theorem checked_addResource_delivering (item : Staging.Item) (target : String) :
    checked ((builder.delivering d).addResource item target) =
      (checked (builder.addResource item target)).map (Builder.delivering d) := by
  have hresources : (builder.delivering d).resources = builder.resources := rfl
  rw [Builder.addResource, Builder.addResource, hresources]
  cases Staging.add (builder.resources.getD []) item target <;> rfl

/-- A builder that is made of a build file has the delivery that it is given, and that changes
    nothing else. -/
theorem toBuilder_eq_map (b : BuildFile) (fs : FileSystem) :
    b.toBuilder fs d = (b.toBuilder fs fun _ => none).map (Builder.delivering d) := by
  refine bind_of_commutes (newBuilder_eq_map d b) fun fresh => ?_
  refine bind_of_commutes (checked_configure_delivering d fresh fs _ _) fun configured => ?_
  refine bind_of_commutes (foldlM_of_commutes ?_ configured _) fun defined => ?_
  · exact fun builder name => setVariable_delivering d builder name _
  refine bind_of_commutes (foldlM_of_commutes ?_ defined _) fun given => ?_
  · exact fun builder entry => setVariable_delivering d builder entry.1 entry.2
  exact foldlM_of_commutes (fun builder i => checked_addResource_delivering d builder _ _) given _

end BuildFile

end InstallerKit
