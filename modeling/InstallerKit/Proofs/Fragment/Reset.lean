import InstallerKit.Proofs.Fragment.Outcome
import InstallerKit.Proofs.Fragment.Workspace

/-!
# Configuring anew

Configuring a builder makes a new builder of it: from then on it does what a new one does
that has been given the same producers and the same version, whatever has been done with it
before. But forgetting comes first. If the directory of the target then turns out to be no
path, the variables and the resources are gone all the same, and the builder is left with the
target of old.

* `Builder.anew`: the new builder that has been given what a builder has been given;
* `Workspace.anew_after`: what that is, after any operations;
* `Workspace.replies_after_configure`: a builder that is configured forgets its past;
* `Workspace.replies_after_refusal`: what is left of a builder that cannot be configured.
-/

namespace InstallerKit.Fragment

open Compiler (Plan)

/-! ### What a builder has been given -/

/-- The new builder that has been given what a builder has been given. -/
def Builder.anew (b : Builder) : Builder :=
  .ofKind ⟨b.fixedProducers, b.element, b.delivery⟩ b.producers b.version

/-- A builder that builds does so without its variables and resources. -/
theorem Builder.build_forget {b b' : Builder} {r : Result} {σ σ' : Session}
    (h : b.build σ = .ok (b', r) σ') :
    ∃ σ'', b.forget.build σ =
      .ok ({ b.forget with state := .built }, { r with resources := [] }) σ'' := by
  rw [build_eq] at h ⊢
  obtain ⟨t, σ₁, htarget, h⟩ := Action.bind_eq_ok_iff.1 h
  obtain ⟨o, σ₂, hwrite, h⟩ := Action.bind_eq_ok_iff.1 h
  obtain ⟨ps, σ₃, -, h⟩ := Action.bind_eq_ok_iff.1 h
  obtain ⟨-, rfl⟩ := Prod.mk.inj (Action.pure_eq_ok_iff.1 h).1
  refine ⟨σ₂, Action.bind_eq_ok_iff.2 ⟨t, σ₁, htarget, ?_⟩⟩
  exact Action.bind_eq_ok_iff.2 ⟨o, σ₂, hwrite, rfl⟩

namespace Workspace

variable {w : Workspace} {k : Builder.Kind} {producers : List Producer} {version : Option Version}

/-- Only two operations give a builder something for good. -/
theorem anew_step (h : w.builder.anew = .ofKind k producers version) (op : Operation) :
    (w.step op).1.builder.anew =
      .ofKind k (producers ++ op.producer?.toList) (op.version?.getD version) := by
  have hsame : w.builder.anew = .ofKind k (producers ++ []) version := by
    rw [h, List.append_nil]
  -- Targets, variables, resources and states are not given, so only two cases say anything.
  have hbecomes := becomes_step w op
  generalize (w.step op).1.builder = b at hbecomes
  cases hbecomes with
  | addProducer p hp =>
    rw [hp]
    exact congrArg (fun b => { b with producers := b.producers ++ [p] }) h
  | setVersion version' hversion =>
    rw [hversion]
    exact congrArg (fun b => { b with version := version' }) hsame
  | same hproducer hversion =>
    rw [hproducer, hversion]
    exact hsame
  | _ => exact hsame

/-- What a builder has been given after some operations. -/
theorem anew_after (h : w.builder.anew = .ofKind k producers version) (ops : List Operation) :
    (w.after ops).builder.anew =
      .ofKind k (producers ++ ops.filterMap Operation.producer?)
        ((ops.filterMap Operation.version?).getLast?.getD version) := by
  induction ops generalizing w producers version with
  | nil => rw [List.filterMap_nil, List.append_nil]; exact h
  | cons op ops ih =>
    have hafter := ih (anew_step h op)
    rw [List.append_assoc] at hafter
    rw [List.filterMap_cons, List.filterMap_cons]
    refine Eq.trans hafter ?_
    cases op.producer? <;> cases op.version? <;> simp [List.getLast?_cons]

/-! ### Builders that are configured -/

theorem exists_resolve_of_done {target : Target} {directory : Option Path}
    (h : (w.step (.configure target directory)).2.answer = .done) :
    ∃ resolved, target.resolve w.files = .ok resolved := by
  cases hresolve : target.resolve w.files with
  | ok resolved => exact ⟨resolved, rfl⟩
  | error e =>
    rw [step_configure_of_error hresolve] at h
    cases h

/-- A builder that is configured forgets its past. A new one that has been given the same
    replies the same from then on, does the same with the files, and tells its plan of the
    same sources. -/
theorem replies_after_configure (k : Builder.Kind) (producers : List Producer)
    (version : Option Version) (plan plan' : Plan) (files : FileSystem)
    (history further : List Operation) (target : Target) (directory : Option Path) :
    let w := (⟨.ofKind k producers version, plan, files⟩ : Workspace).after history
    let new : Workspace :=
      ⟨.ofKind k (producers ++ history.filterMap Operation.producer?)
        ((history.filterMap Operation.version?).getLast?.getD version), plan', w.files⟩
    let ops := .configure target directory :: further
    (w.step (.configure target directory)).2.answer = .done →
      new.replies ops = w.replies ops ∧ (new.after ops).builder = (w.after ops).builder ∧
        (new.after ops).files = (w.after ops).files ∧
        ∃ sources, (w.after ops).plan = w.plan.extend sources ∧
          (new.after ops).plan = plan'.extend sources := by
  intro w new ops h
  obtain ⟨resolved, hresolve⟩ := exists_resolve_of_done h
  have hnew : w.builder.anew = new.builder := anew_after rfl history
  -- All that a builder has not been given is forgotten or set.
  have hconfigured : new.step (.configure target directory) =
      ({ (w.step (.configure target directory)).1 with plan := plan' },
        (w.step (.configure target directory)).2) := by
    rw [step_configure_of_ok hresolve, step_configure_of_ok (w := new) hresolve, ← hnew]
    rfl
  have hreplies : new.replies ops = w.replies ops := by
    rw [replies, replies, hconfigured, replies_with_plan]
  have hafter : new.after ops = { w.after ops with
      plan := plan'.extend ((w.step (.configure target directory)).1.toldAll further) } := by
    refine Eq.trans ?_ (after_with_plan _ plan' further)
    exact congrArg (fun r => r.1.after further) hconfigured
  refine ⟨hreplies, by rw [hafter], by rw [hafter], _, ?_, by rw [hafter]⟩
  exact plan_after w ops

/-- A builder that has built forgets its variable and the resource that it has staged. -/
theorem replies_after_configure_of_built :
    let target : Target := ⟨.ofString "out", "main.wxs", by decide⟩
    let other : Target := ⟨.ofString "out", "other.wxs", by decide⟩
    let item : Staging.Item := .resource { Resource.empty with content := some (.bytes [1]) }
    let history : List Operation := [.addProducer (.elements []), .configure target none,
      .defineVariable (.text "Debug"), .addResource item "note.txt", .build]
    let w := (⟨Builder.new [] none, .new, .withDirectory ["work"]⟩ : Workspace).after history
    let ops : List Operation := [.configure other none, .configurePlan, .build, .inspect]
    (⟨Builder.new [.elements []] none, .new, w.files⟩ : Workspace).replies ops =
      w.replies ops := by
  intro target other item history w ops
  let start : Workspace := ⟨Builder.new [] none, .new, .withDirectory ["work"]⟩
  have hresolve : other.resolve w.files = other.resolve start.files :=
    other.resolve_congr (keeps_after start history)
  have hdone : (w.step (.configure other none)).2.answer = .done := by
    rw [step_configure_of_ok hresolve]
  exact (replies_after_configure ⟨none, fragmentElement, fun _ => none⟩ [] none .new .new
    (.withDirectory ["work"]) history [.configurePlan, .build, .inspect] other none hdone).1

/-! ### Builders that cannot be configured -/

/-- A builder that forgets looks the same for ever just if there is nothing to forget. -/
theorem replies_forget_iff (w : Workspace) :
    (∀ ops, ({ w with builder := w.builder.forget } : Workspace).replies ops = w.replies ops) ↔
      w.builder.vars.values = none ∧ w.builder.resources = none := by
  refine ⟨fun h => ?_, fun h ops => ?_⟩
  · -- Whoever asks the builder is told of its variables and resources.
    obtain ⟨hview, -⟩ := List.cons.inj (h [.inspect])
    obtain ⟨-, -, hvalues, hresources, -⟩ := Answer.view.inj (Reply.mk.inj hview).1
    exact ⟨hvalues.symm, hresources.symm⟩
  · have hforget : w.builder.forget = w.builder := by
      rw [Builder.forget, ← Variables.values_eq_none_iff.1 h.1, ← h.2]
    rw [hforget]

theorem told_forget (w : Workspace) :
    ({ w with builder := w.builder.forget } : Workspace).told .configurePlan =
      (w.told .configurePlan).map fun s => { s with vars := none } := by
  have hrequire : w.builder.forget.requireTarget = w.builder.requireTarget := rfl
  rw [told, told, hrequire]
  cases w.builder.requireTarget <;> rfl

/-- Only the directory of a target can keep a builder from being configured. The builder has
    then forgotten its variables and resources, and nothing else: only if there were none it
    is as it was. It still tells a plan of the same fragment, and builds it, but without
    them. -/
theorem replies_after_refusal (w : Workspace) (target : Target) (directory : Option Path)
    (f : Fault) (h : (w.step (.configure target directory)).2.answer = .refused f) :
    let v := (w.step (.configure target directory)).1
    f = .of (.file .embeddedNul) ∧ ¬ FileSystem.IsClean target.directory ∧
      v = { w with builder := { w.builder with vars := .none, resources := none } } ∧
      ((∀ further, v.replies further = w.replies further) ↔
        w.builder.vars.values = none ∧ w.builder.resources = none) ∧
      v.told .configurePlan = (w.told .configurePlan).map (fun s => { s with vars := none }) ∧
      ∀ σ b r σ', w.builder.build σ = .ok (b, r) σ' →
        ∃ σ'', v.builder.build σ =
          .ok ({ v.builder with state := .built }, { r with resources := [] }) σ'' := by
  intro v
  cases hresolve : target.resolve w.files with
  | ok resolved =>
    rw [step_configure_of_ok hresolve] at h
    cases h
  | error e =>
    obtain ⟨rfl, hunclean⟩ := Target.resolve_eq_error_iff.1 hresolve
    rw [step_configure_of_error hresolve] at h
    have hv : v = { w with builder := w.builder.forget } :=
      congrArg Prod.fst (step_configure_of_error hresolve)
    rw [hv]
    exact ⟨(Answer.refused.inj h).symm, hunclean, rfl, replies_forget_iff w, told_forget w,
      fun σ b r σ' hbuild => Builder.build_forget hbuild⟩

/-- A builder that cannot be configured anew still builds for its target, but not the
    resource. -/
theorem replies_after_refusal_of_resource :
    let target : Target := ⟨.ofString "out", "main.wxs", by decide⟩
    let other : Target := ⟨.ofString "a\x00b", "main.wxs", by decide⟩
    let item : Staging.Item := .resource { Resource.empty with content := some (.bytes [1]) }
    let w := (⟨Builder.new [] none, .new, .withDirectory ["work"]⟩ : Workspace).after
      [.configure target none, .addResource item "note.txt"]
    let v := (w.step (.configure other none)).1
    let σ : Session := ⟨w.files, [], []⟩
    (w.step (.configure other none)).2.answer = .refused (.of (.file .embeddedNul)) ∧
      (∃ b r σ', w.builder.build σ = .ok (b, r) σ' ∧
        r.resources = [.ofString "/work/out/note.txt"]) ∧
      ∃ b r σ', v.builder.build σ = .ok (b, r) σ' ∧ r.resources = [] := by
  intro target other item w v σ
  have hrefused : (w.step (.configure other none)).2.answer =
      .refused (.of (.file .embeddedNul)) := by
    rw [step_configure_of_error (Target.resolve_eq_error_iff.2 ⟨rfl, by decide +kernel⟩)]
  have hyields : w.builder.yields σ (fun _ r _ =>
      r.resources = [.ofString "/work/out/note.txt"]) = true := by
    decide +kernel
  obtain ⟨b, r, σ', hbuild, hr⟩ := Builder.exists_of_yields hyields
  obtain ⟨-, -, -, -, -, hlater⟩ := replies_after_refusal w other none _ hrefused
  obtain ⟨σ'', hagain⟩ := hlater σ b r σ' hbuild
  exact ⟨hrefused, ⟨b, r, σ', hbuild, of_decide_eq_true hr⟩, _, _, σ'', hagain, rfl⟩

/-- A builder that cannot be configured anew has lost its variable, but not its target. -/
theorem vars_after_refusal :
    let target : Target := ⟨.ofString "out", "main.wxs", by decide⟩
    let other : Target := ⟨.ofString "a\x00b", "main.wxs", by decide⟩
    let w := (⟨Builder.new [] none, .new, .withDirectory ["work"]⟩ : Workspace).after
      [.configure target none, .defineVariable (.text "FOO")]
    let v := (w.step (.configure other none)).1
    (w.step (.configure other none)).2.answer = .refused (.of (.file .embeddedNul)) ∧
      w.told .configurePlan =
        [⟨.ofString "/work/out/main.wxs", some (.ofList [("FOO", "yes")])⟩] ∧
      v.told .configurePlan = [⟨.ofString "/work/out/main.wxs", none⟩] := by
  intro target other w v
  refine ⟨rfl, by decide +kernel, by decide +kernel⟩

end Workspace

end InstallerKit.Fragment
