import InstallerKit.Fragment.Builder
import InstallerKit.Proofs.Fragment.Source
import InstallerKit.Proofs.Fragment.Target
import InstallerKit.Proofs.Session

/-!
# Builds that fail

A build finds out where its fragment comes from and renders it before it changes
anything. So a fragment that cannot be rendered leaves everything as it was, whether the
builder has built before or not, and whatever it has built.

* `Builder.Reachable`: the builders that come about;
* `Builder.reachable_invariant`: where a builder that has been configured looks for a
  fragment to take;
* `fault_writtenAll_iff`, `Builder.render_eq_error_iff`: when fragments cannot be rendered;
* `Builder.attempt_of_render_error`: a build that cannot render its fragments.
-/

namespace InstallerKit.Fragment

open Markup

/-! ### Fragments that cannot be rendered -/

section Fault

variable {element : String} {w : Writer} {f : Fault}

/-- What a producer does in its fragment, as the writer sees it. -/
def Producer.written (element : String) (p : Producer) : Script :=
  (p.wrapped element).mapCalls Call.escaped

/-- What several producers do in their fragments, as the writer sees it. -/
def Producer.writtenAll (element : String) (ps : List Producer) : Script :=
  (Producer.fragments element ps).mapCalls Call.escaped

theorem writtenAll_cons (element : String) (p : Producer) (ps : List Producer) :
    Producer.writtenAll element (p :: ps) =
      (p.written element).andThen (Producer.writtenAll element ps) := by
  rw [Producer.writtenAll, Producer.fragments, Script.mapCalls_andThen]
  rfl

theorem fault_ofCalls_singleton (c : Call) (w : Writer) :
    ((Script.ofCalls [c]).run w).fault = (w.step c).error.map fun e => .of (.markup e) := by
  rw [Script.ofCalls, Script.run]
  cases (w.step c).error <;> rfl

theorem made_ofCalls_singleton (c : Call) (w : Writer) : (Script.ofCalls [c]).made w = [c] := by
  rw [Script.ofCalls, Script.made]
  cases (w.step c).error <;> rfl

/-- A fragment fails if its start is refused, if its producer fails, or if its end is
    refused. -/
theorem fault_written (element : String) (p : Producer) (w : Writer) :
    ((p.written element).run w).fault =
      let v := w.after [.startElement element]
      let script := p.toScript.mapCalls Call.escaped
      ((w.step (.startElement element)).error.map fun e => .of (.markup e)).or
        ((script.run v).fault.or
          (((v.after (script.made v)).step .endElement).error.map fun e => .of (.markup e))) := by
  have hstart : (Script.ofCalls [.startElement element]).mapCalls Call.escaped =
      .ofCalls [.startElement element] := Script.mapCalls_ofCalls rfl
  have hend : (Script.ofCalls [.endElement]).mapCalls Call.escaped = .ofCalls [.endElement] :=
    Script.mapCalls_ofCalls rfl
  rw [Producer.written, Producer.wrapped, Script.mapCalls_andThen, Script.mapCalls_andThen, hstart,
    hend, Script.run_andThen_fault, Script.run_andThen_fault, fault_ofCalls_singleton,
    fault_ofCalls_singleton, made_ofCalls_singleton]

/-- Fragments fail as the first of them does that fails. -/
theorem fault_writtenAll_iff {ps : List Producer} :
    ((Producer.writtenAll element ps).run w).fault = some f ↔
      ∃ before p after, ps = before ++ p :: after ∧
        ((Producer.writtenAll element before).run w).fault = none ∧
        ((p.written element).run (w.after ((Producer.writtenAll element before).made w))).fault =
          some f := by
  induction ps generalizing w with
  | nil => simp [Producer.writtenAll, Producer.fragments, Script.mapCalls, Script.run]
  | cons q ps ih =>
    rw [writtenAll_cons, Script.run_andThen_fault]
    constructor
    · intro h
      cases hq : ((q.written element).run w).fault with
      | some g =>
        rw [hq] at h
        exact ⟨[], q, ps, rfl, rfl, hq.trans h⟩
      | none =>
        rw [hq, Option.none_or] at h
        obtain ⟨before, p, after, rfl, hbefore, hp⟩ := ih.1 h
        refine ⟨q :: before, p, after, rfl, ?_, ?_⟩
        · rw [writtenAll_cons, Script.run_andThen_fault, hq, Option.none_or, hbefore]
        · rw [writtenAll_cons, Script.made_andThen, hq, Writer.after_append]
          exact hp
    · rintro ⟨before, p, after, hps, hbefore, hp⟩
      cases before with
      | nil =>
        obtain ⟨rfl, rfl⟩ := List.cons.inj hps
        rw [show ((q.written element).run w).fault = some f from hp, Option.some_or]
      | cons _ before =>
        obtain ⟨rfl, rfl⟩ := List.cons.inj hps
        rw [writtenAll_cons, Script.run_andThen_fault, Option.or_eq_none_iff] at hbefore
        rw [writtenAll_cons, Script.made_andThen, hbefore.1, Writer.after_append] at hp
        rw [hbefore.1, Option.none_or]
        exact ih.2 ⟨before, p, after, rfl, hbefore.2, hp⟩

end Fault

namespace Builder

/-! ### Builders that come about -/

/-- The builders that come about. Files may change between two things that are done with a
    builder. -/
inductive Reachable : Builder → Prop
  | fresh {b : Builder} (h : b.state = .unconfigured) : Reachable b
  | equip {b : Builder} (h : Reachable b) (version : Option Version)
      (delivery : Event → Option Fault) : Reachable { b with version, delivery }
  | addProducer {b b' : Builder} (h : Reachable b) {p : Producer} (hp : b.addProducer p = .ok b') :
      Reachable b'
  | configure {b : Builder} (h : Reachable b) (fs : FileSystem) (target : Target)
      (directory : Option Path) : Reachable (b.configure fs target directory).1
  | setVariable {b b' : Builder} (h : Reachable b) {name value : Datum}
      (hv : b.setVariable name value = .ok b') : Reachable b'
  | addResource {b : Builder} (h : Reachable b) (item : Staging.Item) (target : String) :
      Reachable (b.addResource item target).1
  | attempt {b : Builder} (h : Reachable b) (σ : Session) : Reachable (b.attempt σ).1

/-- A builder has a target, and looks for a file of the same name in a resource directory. -/
structure IsConfigured (b : Builder) (t : Target) (directory : Option Path) : Prop where
  target : b.target = some t
  fragment : b.fragment = some (fragmentResource directory t.fileName)

theorem requireTarget_eq_ok_iff {b : Builder} {t : Target} :
    b.requireTarget = .ok t ↔ b.state ≠ .unconfigured ∧ b.target = some t := by
  rw [requireTarget]
  cases b.state <;> cases b.target <;> simp

/-- What a build changes in a builder is the state. -/
theorem build_builder {b b' : Builder} {r : Result} {σ σ' : Session}
    (h : b.build σ = .ok (b', r) σ') :
    b' = { b with state := .built } ∧ b.state ≠ .unconfigured := by
  rw [build_eq] at h
  obtain ⟨t, σ₁, ht, h⟩ := Action.bind_eq_ok_iff.1 h
  obtain ⟨o, σ₂, -, h⟩ := Action.bind_eq_ok_iff.1 h
  obtain ⟨ps, σ₃, -, h⟩ := Action.bind_eq_ok_iff.1 h
  obtain ⟨rfl, -⟩ := Prod.mk.inj (Action.pure_eq_ok_iff.1 h).1
  refine ⟨rfl, fun hs => ?_⟩
  rw [requireTarget, hs] at ht
  cases ht

/-- Whether a builder has been configured, and what it is configured for, is as it was. -/
structure IsLike (b b' : Builder) : Prop where
  state : b.state = .unconfigured → b'.state = .unconfigured
  target : b'.target = b.target
  fragment : b'.fragment = b.fragment

/-- Only a target makes something else of a builder. -/
theorem isLike_configure (b : Builder) (fs : FileSystem) (target : Target)
    (directory : Option Path) :
    b.IsLike (b.configure fs target directory).1 ∨
      ∃ t, (b.configure fs target directory).1.IsConfigured t directory := by
  rw [configure]
  cases h : target.resolve fs with
  | error e => exact .inl ⟨id, rfl, rfl⟩
  | ok t =>
    right
    have hname : t.fileName = target.fileName := by
      rw [Target.resolve] at h
      cases hd : fs.resolve target.directory with
      | error e => simp [hd, bind, Except.bind] at h
      | ok d =>
        simp only [hd, bind, Except.bind, pure, Except.pure, Except.ok.injEq] at h
        rw [← h]
    exact ⟨t, rfl, by rw [hname]⟩

theorem isLike_equip (b : Builder) (version : Option Version) (delivery : Event → Option Fault) :
    b.IsLike { b with version, delivery } := ⟨id, rfl, rfl⟩

theorem isLike_setVariable {b b' : Builder} {name value : Datum}
    (h : b.setVariable name value = .ok b') : b.IsLike b' := by
  rw [setVariable] at h
  split at h
  · obtain rfl := Except.ok.inj h
    exact ⟨id, rfl, rfl⟩
  · cases h

theorem isLike_addProducer {b b' : Builder} {p : Producer} (h : b.addProducer p = .ok b') :
    b.IsLike b' := by
  cases p with
  | idle d => cases h
  | _ =>
    obtain rfl := Except.ok.inj h
    exact ⟨id, rfl, rfl⟩

theorem isLike_addResource (b : Builder) (item : Staging.Item) (target : String) :
    b.IsLike (b.addResource item target).1 := by
  rw [addResource]
  cases Staging.add (b.resources.getD []) item target <;> exact ⟨id, rfl, rfl⟩

theorem isLike_attempt (b : Builder) (σ : Session) : b.IsLike (b.attempt σ).1 := by
  rw [attempt_eq]
  cases h : b.build σ with
  | ok x σ' =>
    obtain ⟨b', r⟩ := x
    obtain ⟨rfl, hne⟩ := build_builder h
    exact ⟨fun hs => absurd hs hne, rfl, rfl⟩
  | error f σ' => exact ⟨id, rfl, rfl⟩

/-- A builder that has been configured knows where its fragment goes, and what would take
    its place. -/
theorem reachable_invariant {b : Builder} (h : b.Reachable) (hs : b.state ≠ .unconfigured) :
    ∃ t directory, b.IsConfigured t directory := by
  -- Only `configure` says where a fragment goes; whatever else is done to a builder keeps it.
  have hlike {b b' : Builder} (hb : b.IsLike b')
      (ih : b.state ≠ .unconfigured → ∃ t directory, b.IsConfigured t directory)
      (hs : b'.state ≠ .unconfigured) : ∃ t directory, b'.IsConfigured t directory := by
    obtain ⟨t, directory, h⟩ := ih (mt hb.state hs)
    exact ⟨t, directory, hb.target.trans h.target, hb.fragment.trans h.fragment⟩
  induction h with
  | fresh h => exact absurd h hs
  | equip _ version delivery ih => exact hlike (isLike_equip _ version delivery) ih hs
  | addProducer _ hp ih => exact hlike (isLike_addProducer hp) ih hs
  | configure _ fs target directory ih =>
    rcases isLike_configure _ fs target directory with hb | ⟨t, h⟩
    · exact hlike hb ih hs
    · exact ⟨t, directory, h⟩
  | setVariable _ hv ih => exact hlike (isLike_setVariable hv) ih hs
  | addResource _ item target ih => exact hlike (isLike_addResource _ item target) ih hs
  | attempt _ σ ih => exact hlike (isLike_attempt _ σ) ih hs

/-! ### Builds whose fragments cannot be rendered -/

/-- There is a file of the fragment's name in the resource directory. -/
def HasOverride (b : Builder) (fs : FileSystem) : Prop :=
  ∃ r directory t content, b.fragment = some r ∧ r.directory = some directory ∧
    b.target = some t ∧ fs.find (directory.child t.fileName) = .ok (.file content)

/-- The system does not let the builder look for a file of the fragment's name. -/
def LookUpFails (b : Builder) (fs : FileSystem) (e : FileSystem.Error) : Prop :=
  ∃ r directory t, b.fragment = some r ∧ r.directory = some directory ∧
    b.target = some t ∧ fs.isFile (directory.child t.fileName) = .error e

/-- The document of a builder's fragments. -/
def render (b : Builder) : Except Fault (List Char) :=
  Document.render (some Document.standardIndent) Document.standardEncoding
    (source (Producer.fragments b.element b.activeProducers))

/-- Rendering fails as the fragments do, or else as the end of the document does. -/
theorem render_eq_error_iff {b : Builder} {f : Fault} :
    b.render = .error f ↔
      let w := (Writer.fresh (some Document.standardIndent)).after
        (sourceStart Document.standardEncoding)
      let content := Producer.writtenAll b.element b.activeProducers
      (content.run w).fault = some f ∨ (content.run w).fault = none ∧
        ((Script.ofCalls [.endElement, .endDocument]).run (w.after (content.made w))).fault =
          some f := by
  have hstart := (leads_sourceStart (some Document.standardIndent) Document.standardEncoding).1.2
    trivial
  have herror : b.render = .error f ↔
      ((Document.complete Document.standardEncoding
        (source (Producer.fragments b.element b.activeProducers))).run
          (.fresh (some Document.standardIndent))).fault = some f := by
    rw [render, Document.render]
    split <;> simp_all
  rw [herror, complete_source, Script.run_andThen_fault, (Script.run_ofCalls _ _).1.2 hstart,
    Script.made_ofCalls hstart, Option.none_or, Script.run_andThen_fault, Option.or_eq_some_iff]
  rfl

/-- Where a name leads to a file, there is one. -/
theorem exists_find_of_isFile {fs : FileSystem} {p : Path} (h : fs.isFile p = .ok true) :
    ∃ content, fs.find p = .ok (.file content) := by
  unfold FileSystem.isFile FileSystem.find? at h
  cases hf : fs.find p with
  | ok e =>
    cases e with
    | file content => exact ⟨content, rfl⟩
    | directory => simp [hf, bind, Except.bind, pure, Except.pure] at h
  | error e =>
    rw [hf] at h
    split at h <;> simp_all [bind, Except.bind, pure, Except.pure]

theorem nameOr_fileName (t : Target) (other : String) :
    Resource.nameOr (some t.fileName) other = t.fileName :=
  if_neg t.fileName_ne_empty

/-- The builder looks for a file of its target's name. It would look for one of another
    name if this name were empty. -/
theorem override?_fragmentResource (directory : Path) (t : Target) (fs : FileSystem)
    (dest : Path) :
    (fragmentResource (some directory) t.fileName).override? fs dest = do
      return if ← fs.isFile (directory.child t.fileName) then some (directory.child t.fileName)
        else none := by
  rw [Resource.override?]
  simp only [fragmentResource, nameOr_fileName]

section Save

variable {r : Resource} {path : Path} {σ : Session} (horder : r.order = [.directory])
include horder

/-- Without a file in the resource directory there is nothing to save. -/
theorem save_of_override?_eq_none (h : r.override? σ.files path = .ok none) :
    r.save path σ = .ok none σ := by
  have htry : r.trySource path .directory σ = .ok false σ :=
    (Action.bind_of_ok (Action.ask_of_ok h) _).trans rfl
  rw [Resource.save, horder]
  exact (Action.bind_of_ok htry _).trans rfl

theorem save_of_override?_eq_error {e : FileSystem.Error}
    (h : r.override? σ.files path = .error e) :
    r.save path σ = .error (.of (.file e)) σ := by
  have htry : r.trySource path .directory σ = .error (.of (.file e)) σ :=
    Action.bind_of_error (Action.ask_of_error h) _
  rw [Resource.save, horder]
  exact Action.bind_of_error htry _

end Save

section IsConfigured

variable {b : Builder} {t : Target} {directory : Option Path} (h : b.IsConfigured t directory)
  {σ : Session}
include h

/-- A builder looks for a file of the target's name, wherever the fragment is to go. -/
theorem IsConfigured.resolveOrigin (path : Path) (hno : ¬ b.HasOverride σ.files) :
    b.resolveOrigin path σ = .ok .generated σ ∨
      ∃ e, b.LookUpFails σ.files e ∧ b.resolveOrigin path σ = .error (.of (.file e)) σ := by
  rw [Builder.resolveOrigin, h.fragment]
  cases hd : directory with
  | none =>
    left
    exact Action.bind_of_ok (save_of_override?_eq_none rfl rfl) _
  | some d =>
    have hoverride := override?_fragmentResource d t σ.files path
    cases hfile : σ.files.isFile (d.child t.fileName) with
    | error e =>
      right
      rw [hfile] at hoverride
      refine ⟨e, ⟨_, d, t, h.fragment, hd, h.target, hfile⟩, ?_⟩
      exact Action.bind_of_error (save_of_override?_eq_error rfl hoverride) _
    | ok found =>
      left
      -- A file that is found is the override that there is not to be.
      cases found with
      | true =>
        obtain ⟨content, hfind⟩ := exists_find_of_isFile hfile
        exact absurd ⟨_, d, t, content, h.fragment, hd, h.target, hfind⟩ hno
      | false =>
        rw [hfile] at hoverride
        exact Action.bind_of_ok (save_of_override?_eq_none rfl hoverride) _

theorem IsConfigured.build_of_render_error (hs : b.state ≠ .unconfigured)
    (hno : ¬ b.HasOverride σ.files) {f : Fault} (hf : b.render = .error f) :
    b.build σ = .error f σ ∨
      ∃ e, b.LookUpFails σ.files e ∧ b.build σ = .error (.of (.file e)) σ := by
  have hrequire : b.requireTarget = .ok t := requireTarget_eq_ok_iff.2 ⟨hs, h.target⟩
  have hbuild : b.build σ = ((b.writeFragment t.path) >>= fun origin => do
      let resources ← b.stage t.directory
      return ({ b with state := .built }, ⟨t.path, origin, resources⟩)) σ := by
    rw [build_eq, hrequire]
    rfl
  rw [hbuild]
  rcases h.resolveOrigin t.path hno with horigin | ⟨e, he, horigin⟩
  · left
    -- The fragment is to be generated, and it is rendered before anything is saved.
    refine Action.bind_of_error ?_ _
    refine (Action.bind_of_ok horigin _).trans ?_
    refine Action.bind_of_error ?_ _
    rw [createSource, Document.create]
    rw [show Document.render _ _ _ = .error f from hf]
    rfl
  · right
    refine ⟨e, he, Action.bind_of_error ?_ _⟩
    exact Action.bind_of_error horigin _

end IsConfigured

/-- A build whose fragments cannot be rendered leaves everything as it was: the builder, the
    files, the events, and the log. The fault is that of rendering, unless it is that of
    looking for a file to take the fragment's place, which comes first. -/
theorem attempt_of_render_error {b : Builder} (h : b.Reachable) (hs : b.state ≠ .unconfigured)
    {σ : Session} (hno : ¬ b.HasOverride σ.files) {f : Fault} (hf : b.render = .error f) :
    ∃ g, b.attempt σ = (b, σ, .error g) ∧
      (g = f ∨ ∃ e, b.LookUpFails σ.files e ∧ g = .of (.file e)) := by
  obtain ⟨t, directory, hb⟩ := reachable_invariant h hs
  rcases hb.build_of_render_error hs hno hf with hbuild | ⟨e, he, hbuild⟩
  · exact ⟨f, by rw [attempt_eq, hbuild], .inl rfl⟩
  · exact ⟨_, by rw [attempt_eq, hbuild], .inr ⟨e, he, rfl⟩⟩

/-- A builder that has built is given a producer that fails after some calls. The fragment
    that it has built stays. -/
theorem attempt_of_late_failure :
    let writing : Producer :=
      .script (.call (.startElement "A") fun _ => .call .endElement fun _ => .done)
    let failing : Producer := .script (.call (.startElement "B") fun _ =>
      .call (.characters "$x") fun _ => .fail (.of (.reported .value "no more")))
    let σ₀ : Session := ⟨.withDirectory ["work"], [], []⟩
    let target : Target := ⟨.ofString "out", "main.wxs", by decide⟩
    let first := ((Builder.new [writing] none).configure σ₀.files target none).1.attempt σ₀
    let b : Builder := { first.1 with producers := first.1.producers ++ [failing] }
    let σ : Session := first.2.1
    b.Reachable ∧ b.state = .built ∧ ¬ b.HasOverride σ.files ∧
      σ.files.below.map Prod.fst = ["out", "out/main.wxs"] ∧ σ.events.length = 1 ∧
      ∃ f, b.render = .error f ∧ f.message = "no more" ∧ b.attempt σ = (b, σ, .error f) := by
  intro writing failing σ₀ target first b σ
  have hb : b.Reachable :=
    .addProducer (.attempt (.configure (.fresh rfl) σ₀.files target none) σ₀)
      (show first.1.addProducer failing = .ok b from rfl)
  obtain ⟨hstate, hdirectory, hmessage, hfiles, hevents⟩ :
      b.state = .built ∧ b.fragment.bind Resource.directory = none ∧
        ((b.render.map fun _ => "").tryCatch fun f => .ok f.message).toOption = some "no more" ∧
        σ.files.below.map Prod.fst = ["out", "out/main.wxs"] ∧ σ.events.length = 1 := by
    decide +kernel
  have hno : ¬ b.HasOverride σ.files := by
    rintro ⟨r, directory, t, content, hr, hd, -⟩
    rw [hr, Option.bind_some, hd] at hdirectory
    cases hdirectory
  refine ⟨hb, hstate, hno, hfiles, hevents, ?_⟩
  cases hf : b.render with
  | ok text =>
    rw [hf] at hmessage
    have hempty : "" = "no more" := Option.some.inj hmessage
    exact absurd hempty (by decide)
  | error f =>
    rw [hf] at hmessage
    obtain ⟨g, hg, rfl | ⟨e, ⟨r, directory, t, hr, hd, -⟩, -⟩⟩ :=
      attempt_of_render_error hb (by rw [hstate]; decide) hno hf
    · exact ⟨g, rfl, Option.some.inj hmessage, hg⟩
    · rw [hr, Option.bind_some, hd] at hdirectory
      cases hdirectory

end Builder

end InstallerKit.Fragment
