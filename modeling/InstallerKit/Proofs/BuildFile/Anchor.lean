import InstallerKit.BuildFile.Load
import InstallerKit.Proofs.WorkingDirectory
import Mathlib.Data.List.Forall2
import Mathlib.Data.Option.Basic

/-!
# Build files in every working directory

A build file is anchored once, at the directory that holds it, when it is loaded. From then on
all of its paths are absolute: those that were not are seen from that directory, and anchoring
them again does nothing. So neither what is loaded nor what is built from it has to do with the
working directory.

* `IsAnchored`, `IsAbsolute.anchor_eq_self`: what anchoring does, and does not do twice;
* `IsAbsolute.of_toBuilder`: the paths of a builder are those of its build file;
* `build_of_load`: builds from a build file in every working directory.
-/

namespace InstallerKit

open InstallerKit.Action

/-! ### Results -/

section Results

variable {ε α β : Type}

theorem except_bind_eq_ok_iff {x : Except ε α} {f : α → Except ε β} {b : β} :
    x >>= f = .ok b ↔ ∃ a, x = .ok a ∧ f a = .ok b := by
  cases x with
  | ok a => simp [bind, Except.bind]
  | error e => simp [bind, Except.bind]

theorem foldlM_preserves {P : β → Prop} {f : β → α → Except ε β} {xs : List α} {b b' : β}
    (hf : ∀ x ∈ xs, ∀ b b', f b x = .ok b' → P b → P b') (h : xs.foldlM f b = .ok b')
    (hb : P b) : P b' := by
  induction xs generalizing b with
  | nil =>
    obtain rfl := Except.ok.inj h
    exact hb
  | cons x rest ih =>
    rw [List.forall_mem_cons] at hf
    rw [List.foldlM_cons] at h
    obtain ⟨next, hnext, h⟩ := except_bind_eq_ok_iff.1 h
    exact ih hf.2 h (hf.1 b next hnext hb)

end Results

/-! ### Paths -/

variable {base p q : Path}

/-- The path `q` is absolute: it is `p` if that is absolute, or else `p` as seen from `base`. -/
structure Path.IsSeenFrom (base p q : Path) : Prop where
  isAbsolute : q.isAbsolute = true
  eq_self : p.isAbsolute = true → q = p
  eq_below : p.isAbsolute = false → q = ⟨base.root, base.names ++ p.names⟩

theorem Path.isSeenFrom_anchor (hbase : base.isAbsolute = true) (p : Path) :
    IsSeenFrom base p (anchor base p) := by
  rw [anchor]
  split
  · next h => exact ⟨h, fun _ => rfl, fun hp => absurd h (by simp [hp])⟩
  · next h =>
    refine ⟨isAbsolute_join hbase p, fun hp => absurd hp h, fun _ => ?_⟩
    exact if_neg h

theorem Path.anchor_of_isAbsolute (hp : p.isAbsolute = true) (base : Path) : anchor base p = p :=
  if_pos hp

theorem FileSystem.isAbsolute_of_resolve {fs : FileSystem} (h : fs.resolve p = .ok q) :
    q.isAbsolute = true := by
  obtain ⟨-, rfl⟩ := resolve_eq_ok_iff.1 h
  rfl

/-! ### Anchoring -/

namespace BuildFile

variable {b : BuildFile}

/-- All paths of a build file are absolute. -/
structure IsAbsolute (b : BuildFile) : Prop where
  outputDirectory : b.outputDirectory.isAbsolute = true
  resourceDirectory : ∀ d ∈ b.resourceDirectory, d.isAbsolute = true
  source : ∀ i ∈ b.resources, ∀ p ∈ i.source, p.isAbsolute = true

/-- The build file `c` is `b` with its paths seen from a directory: the two directories, and the
    sources of the resources, which are still as many and in the same order. Nothing else has
    changed. -/
structure IsAnchored (base : Path) (b c : BuildFile) : Prop where
  outputDirectory : Path.IsSeenFrom base b.outputDirectory c.outputDirectory
  resourceDirectory :
    Option.Rel (Path.IsSeenFrom base) b.resourceDirectory c.resourceDirectory
  resources : List.Forall₂
    (fun i j => Option.Rel (Path.IsSeenFrom base) i.source j.source ∧
      j = { i with source := j.source })
    b.resources c.resources
  others : c = { b with
    outputDirectory := c.outputDirectory
    resourceDirectory := c.resourceDirectory
    resources := c.resources }

theorem rel_map_anchor (hbase : base.isAbsolute = true) (p? : Option Path) :
    Option.Rel (Path.IsSeenFrom base) p? (p?.map (Path.anchor base)) := by
  cases p? with
  | none => exact .none
  | some p => exact .some (Path.isSeenFrom_anchor hbase p)

theorem isAnchored_anchor (hbase : base.isAbsolute = true) (b : BuildFile) :
    b.IsAnchored base (b.anchor base) where
  outputDirectory := Path.isSeenFrom_anchor hbase b.outputDirectory
  resourceDirectory := rel_map_anchor hbase b.resourceDirectory
  resources := by
    rw [anchor, List.forall₂_map_right_iff, List.forall₂_same]
    exact fun i _ => ⟨rel_map_anchor hbase i.source, rfl⟩
  others := rfl

theorem isAbsolute_anchor (hbase : base.isAbsolute = true) (b : BuildFile) :
    (b.anchor base).IsAbsolute := by
  have hmap (p? : Option Path) : ∀ p ∈ p?.map (Path.anchor base), p.isAbsolute = true := by
    intro p hp
    obtain ⟨q, -, rfl⟩ := Option.map_eq_some_iff.1 hp
    exact (Path.isSeenFrom_anchor hbase q).isAbsolute
  refine ⟨(Path.isSeenFrom_anchor hbase _).isAbsolute, hmap _, fun i hi => ?_⟩
  obtain ⟨j, -, rfl⟩ := List.mem_map.1 hi
  exact hmap j.source

/-- Where all paths are absolute, nothing is left to be anchored. -/
theorem IsAbsolute.anchor_eq_self (hb : b.IsAbsolute) (base : Path) : b.anchor base = b := by
  have hmap (p? : Option Path) (h : ∀ p ∈ p?, p.isAbsolute = true) :
      p?.map (Path.anchor base) = p? := by
    cases p? with
    | none => rfl
    | some p => exact congrArg some (Path.anchor_of_isAbsolute (h p rfl) base)
  have hitems : b.resources.map (Item.anchor base) = b.resources := by
    refine (List.map_congr_left fun i hi => ?_).trans (List.map_id _)
    rw [Item.anchor, hmap i.source (hb.source i hi)]
    rfl
  rw [anchor, Path.anchor_of_isAbsolute hb.outputDirectory, hmap _ hb.resourceDirectory, hitems]

/-! ### Loading -/

theorem load_seenFrom (fs : FileSystem) {path : Path} (hpath : path.isAbsolute = true)
    (place : List String) : load (fs.seenFrom place) path = load fs path := by
  have hread : read (fs.seenFrom place) path = read fs path := by
    rw [read, read, FileSystem.read_seenFrom place fs hpath]
  rw [load, load, hread, FileSystem.resolve_seenFrom place fs (Path.isAbsolute_parent hpath)]

theorem isAbsolute_of_load {fs : FileSystem} {path : Path} (h : load fs path = .ok b) :
    b.IsAbsolute := by
  obtain ⟨read, -, h⟩ := except_bind_eq_ok_iff.1 h
  obtain ⟨base, hbase, h⟩ := except_bind_eq_ok_iff.1 h
  obtain rfl := Except.ok.inj h
  exact isAbsolute_anchor (FileSystem.isAbsolute_of_resolve (mapError_eq_ok_iff.1 hbase)) read

/-! ### Building -/

theorem checked_eq_ok_iff {change : Fragment.Builder × Option Problem}
    {builder : Fragment.Builder} : checked change = .ok builder ↔ change = (builder, none) := by
  obtain ⟨after, failure⟩ := change
  cases failure <;> simp [checked]

section

open Fragment (Builder Target)

variable {builder builder' : Builder}

theorem isAbsolute_of_configure {fs : FileSystem} {target : Target} {directory : Option Path}
    (h : builder.configure fs target directory = (builder', none))
    (hdirectory : ∀ d ∈ directory, d.isAbsolute = true) : builder'.IsAbsolute := by
  rw [Builder.configure] at h
  split at h
  · cases h
  · next resolved hresolve =>
    obtain ⟨d, hd, hresolved⟩ := except_bind_eq_ok_iff.1 hresolve
    obtain rfl := Except.ok.inj hresolved
    obtain rfl := (Prod.mk.inj h).1
    refine ⟨?_, ?_, by rintro entries ⟨⟩⟩
    · rintro t ⟨⟩
      exact FileSystem.isAbsolute_of_resolve hd
    · rintro r ⟨⟩
      exact ⟨hdirectory, by rintro p ⟨⟩⟩

theorem isAbsolute_of_setVariable {name value : Datum}
    (h : builder.setVariable name value = .ok builder') (hb : builder.IsAbsolute) :
    builder'.IsAbsolute := by
  rw [Builder.setVariable] at h
  split at h
  · obtain rfl := Except.ok.inj h
    exact ⟨hb.target, hb.fragment, hb.resources⟩
  · cases h

theorem isAbsolute_of_addResource {item : Staging.Item} {name : String}
    (h : builder.addResource item name = (builder', none)) (hitem : item.IsAbsolute)
    (hb : builder.IsAbsolute) : builder'.IsAbsolute := by
  rw [Builder.addResource, Staging.add] at h
  split at h
  · next entries hadd =>
    obtain rfl := (Prod.mk.inj h).1
    refine ⟨hb.target, hb.fragment, ?_⟩
    rintro _ ⟨⟩
    split at hadd
    · cases hadd
    · obtain rfl := Except.ok.inj hadd
      intro e he
      rcases List.mem_append.1 he with he | he
      · cases hentries : builder.resources with
        | none => simp [hentries] at he
        | some entries => exact hb.resources entries hentries e (by simpa [hentries] using he)
      · obtain rfl := List.mem_singleton.1 he
        exact hitem
  · cases h

end

theorem IsAbsolute.toResource (hb : b.IsAbsolute) {i : Item} (hi : i ∈ b.resources) :
    (i.toResource b.resourceDirectory).IsAbsolute where
  directory := hb.resourceDirectory
  content := by
    intro p hp
    refine hb.source i hi p ?_
    rw [Item.toResource] at hp
    split at hp
    · next q hsource =>
      obtain rfl := Resource.Content.file.inj (Option.some.inj hp)
      exact hsource
    · cases hp
    · cases hp

/-- The paths of a builder are those of its build file. -/
theorem IsAbsolute.of_toBuilder (hb : b.IsAbsolute) {fs : FileSystem}
    {delivery : Event → Option Fault} {builder : Fragment.Builder}
    (h : b.toBuilder fs delivery = .ok builder) : builder.IsAbsolute := by
  obtain ⟨fresh, -, h⟩ := except_bind_eq_ok_iff.1 h
  obtain ⟨configured, hconfigured, h⟩ := except_bind_eq_ok_iff.1 h
  obtain ⟨defined, hdefined, h⟩ := except_bind_eq_ok_iff.1 h
  obtain ⟨given, hgiven, h⟩ := except_bind_eq_ok_iff.1 h
  have hstart : configured.IsAbsolute :=
    isAbsolute_of_configure (checked_eq_ok_iff.1 hconfigured) hb.resourceDirectory
  have hvars : given.IsAbsolute :=
    foldlM_preserves (fun _ _ _ _ => isAbsolute_of_setVariable) hgiven
      (foldlM_preserves (fun _ _ _ _ => isAbsolute_of_setVariable) hdefined hstart)
  refine foldlM_preserves (fun i hi _ _ hadd => ?_) h hvars
  refine isAbsolute_of_addResource (checked_eq_ok_iff.1 hadd) ?_
  rintro r ⟨⟩
  exact hb.toResource hi

theorem IsAbsolute.toBuilder_seenFrom (hb : b.IsAbsolute) (fs : FileSystem) (place : List String)
    (delivery : Event → Option Fault) :
    b.toBuilder (fs.seenFrom place) delivery = b.toBuilder fs delivery := by
  have hresolve : b.target.resolve (fs.seenFrom place) = b.target.resolve fs := by
    rw [Fragment.Target.resolve, Fragment.Target.resolve]
    exact congrArg (· >>= _) (FileSystem.resolve_seenFrom place fs hb.outputDirectory)
  have hconfigure (builder : Fragment.Builder) :
      builder.configure (fs.seenFrom place) b.target b.resourceDirectory =
        builder.configure fs b.target b.resourceDirectory := by
    rw [Fragment.Builder.configure, Fragment.Builder.configure, hresolve]
  simp only [toBuilder, hconfigure]

/-- Makes the builder that a build file describes, and builds. -/
def build (b : BuildFile) (delivery : Event → Option Fault) :
    Action (Fragment.Builder × Fragment.Result) := do
  let builder ← Action.lift id (b.toBuilder (← get).files delivery)
  builder.build

theorem IsAbsolute.isUniform_build (hb : b.IsAbsolute) (delivery : Event → Option Fault) :
    IsUniform (b.build delivery) := by
  refine isUniform_bind_get (f := fun fs => Action.lift id (b.toBuilder fs delivery) >>= _)
    (fun fs place => ?_) fun fs => ?_
  · rw [hb.toBuilder_seenFrom fs place]
  · refine (isUniform_lift id _).bind_answer fun σ builder σ' h => ?_
    exact (hb.of_toBuilder ((hasEffect_lift id _).of_ok h).1).isUniform_build

/-- Anchored at an absolute directory, a build file has only absolute paths: those that are not
    were below the directory, nothing else changes, and to anchor it anywhere a second time
    changes nothing. So a build file under an absolute path is loaded alike in every working
    directory, and a build from it answers and tells the same and leaves the same files there. -/
theorem build_of_load :
    (∀ (b : BuildFile) (base : Path), base.isAbsolute = true →
      (b.anchor base).IsAbsolute ∧ b.IsAnchored base (b.anchor base) ∧
        ∀ other, (b.anchor base).anchor other = b.anchor base) ∧
    ∀ (fs : FileSystem) (path : Path), path.isAbsolute = true →
      (∀ place, load (fs.seenFrom place) path = load fs path) ∧
      ∀ b, load fs path = .ok b → ∀ delivery σ place,
        b.build delivery (Session.seenFrom place σ) = seenFrom place (b.build delivery σ) := by
  refine ⟨fun b base hbase => ?_, fun fs path hpath => ⟨load_seenFrom fs hpath, ?_⟩⟩
  · have habsolute := isAbsolute_anchor hbase b
    exact ⟨habsolute, isAnchored_anchor hbase b, habsolute.anchor_eq_self⟩
  · intro b hb delivery σ place
    exact (isAbsolute_of_load hb).isUniform_build delivery place σ

/-- A build file that has been loaded in its directory is built from elsewhere. -/
theorem build_of_load_from_elsewhere :
    let fs := (FileSystem.withDirectory ["work"]).place "wixsmith.toml"
      (Text.Utf8.encode "output_dir = 'out'".toList)
    let path := Path.ofString "/work/wixsmith.toml"
    let target := Path.ofString "/work/out/main.wxs"
    path.isAbsolute = true ∧ ∃ b, load fs path = .ok b ∧ ∃ result σ',
      b.build (fun _ => none) (Session.seenFrom ["tmp"] ⟨fs, [], []⟩) = .ok result σ' ∧
        result.2.path = target ∧ σ'.files.isFile target = .ok true := by
  intro fs path target
  have hpath : path.isAbsolute = true := rfl
  have hruns : (load fs path).toOption.any (fun b =>
      match b.build (fun _ => none) ⟨fs, [], []⟩ with
      | .ok result σ' => result.2.path = target ∧ (σ'.files.isFile target).toOption = some true
      | .error _ _ => false) = true := by
    decide +kernel
  refine ⟨hpath, ?_⟩
  cases hload : load fs path with
  | error f => simp [hload, Except.toOption] at hruns
  | ok b =>
    have helsewhere := (build_of_load.2 fs path hpath).2 b hload (fun _ => none) ⟨fs, [], []⟩ ["tmp"]
    rw [hload] at hruns
    cases hbuilt : b.build (fun _ => none) ⟨fs, [], []⟩ with
    | error f σ' => simp [hbuilt, Except.toOption] at hruns
    | ok result σ' =>
      simp only [hbuilt, Except.toOption, Option.any_some] at hruns
      obtain ⟨htarget, hfile⟩ := of_decide_eq_true hruns
      rw [hbuilt] at helsewhere
      refine ⟨b, rfl, result, _, helsewhere, htarget, ?_⟩
      exact (FileSystem.isFile_seenFrom _ _ rfl).trans (toOption_eq_some_iff.1 hfile)

end BuildFile

end InstallerKit
