import InstallerKit.Proofs.Effect
import InstallerKit.Resource.Basic

/-!
# What resources save

A resource looks for a content in its sources, in order, and takes the first one it finds.
That content is saved, with its tokens replaced. What is found in the sources depends on the
files alone, and looking for it changes nothing.

* `Resource.supply`: what a resource has to save, and from which source;
* `Resource.hasEffect_save`: saving a resource saves just that;
* `Resource.supply_of_lookUp`: it depends on the files that the resource looks for.
-/

namespace InstallerKit

open InstallerKit.Action FileSystem

namespace Resource

/-- What a resource has to save: the source that counts, and the content that is to arrive. -/
structure Supply where
  source : Source
  content : List UInt8

/-- The path of the file that takes the place of the default content. -/
def candidate? (r : Resource) (dest : Path) : Option Path :=
  r.directory.map fun directory => directory.child (nameOr r.publicName dest.name)

/-- The bytes of a default content. -/
def Content.read (fs : FileSystem) : Content → Except Fault (List UInt8)
  | .bytes content => .ok content
  | .file path => (fs.read path).mapError fun e => .of (.file e)
  | .failing f => .error f

/-- The content that is found in a source, if the source is available. -/
def found (r : Resource) (fs : FileSystem) (dest : Path) :
    Source → Except Fault (Option (List UInt8))
  | .directory =>
    match r.candidate? dest with
    | none => .ok none
    | some file => (fs.lookUp file).mapError fun e => .of (.file e)
  | .default =>
    match r.content with
    | none => .ok none
    | some content => (content.read fs).map some

/-- What there is to save from the first source that is available. -/
def supplyFrom (r : Resource) (fs : FileSystem) (dest : Path) :
    List Source → Except Fault (Option Supply)
  | [] => .ok none
  | s :: rest =>
    match r.found fs dest s with
    | .error f => .error f
    | .ok none => supplyFrom r fs dest rest
    | .ok (some content) =>
      ((finish r.substitutions content).mapError .of).map fun arrived => some ⟨s, arrived⟩

/-- What a resource has to save under a path, if anything. -/
def supply (r : Resource) (fs : FileSystem) (dest : Path) : Except Fault (Option Supply) :=
  r.supplyFrom fs dest r.order

section Effect

variable (r : Resource) (dest : Path)

theorem hasEffect_write (content : List UInt8) :
    HasEffect (r.write dest content) fun fs _ fs' =>
      ∃ arrived, finish r.substitutions content = .ok arrived ∧ fs.Saves dest arrived fs' := by
  refine (hasEffect_bind (hasEffect_lift id _) fun arrived =>
    hasEffect_bind (hasEffect_makeDirectories dest.parent) fun _ =>
      hasEffect_change fun fs => fs.write dest arrived).congr fun fs _ fs' => ?_
  constructor
  · rintro ⟨arrived, _, ⟨hfinish, rfl⟩, -, made, hmade, hwrite⟩
    exact ⟨arrived, hfinish, made, hmade, hwrite⟩
  · rintro ⟨arrived, hfinish, made, hmade, hwrite⟩
    exact ⟨arrived, fs, ⟨hfinish, rfl⟩, (), made, hmade, hwrite⟩

theorem override?_eq_ok_none_iff {fs : FileSystem} :
    r.override? fs dest = .ok none ↔ r.found fs dest .directory = .ok none := by
  rw [override?, found, candidate?]
  cases r.directory with
  | none => simp
  | some directory =>
    simp only [Option.map_some, isFile_eq]
    cases fs.lookUp (directory.child (nameOr r.publicName dest.name)) with
    | error e => simp [Except.map, bind, Except.bind]
    | ok c => cases c <;> simp [Except.map, bind, Except.bind, pure, Except.pure]

/-- A file that takes the place of the default content is found with its content. -/
theorem override?_eq_ok_some_iff {fs : FileSystem} {content : List UInt8} :
    (∃ file, r.override? fs dest = .ok (some file) ∧ fs.read file = .ok content) ↔
      r.found fs dest .directory = .ok (some content) := by
  rw [override?, found, candidate?]
  cases r.directory with
  | none => simp
  | some directory =>
    simp only [Option.map_some, isFile_eq, read_eq_ok_iff, ← lookUp_eq_some_iff]
    cases h : fs.lookUp (directory.child (nameOr r.publicName dest.name)) with
    | error e => simp [Except.map, bind, Except.bind]
    | ok c =>
      cases c with
      | none => simp [Except.map, bind, Except.bind, pure, Except.pure]
      | some c => simp [Except.map, bind, Except.bind, pure, Except.pure, h]

theorem hasEffect_load (c : Content) :
    HasEffect c.load fun fs content fs' => c.read fs = .ok content ∧ fs = fs' := by
  cases c with
  | bytes content => exact (hasEffect_pure content).congr fun _ _ _ => by simp [Content.read]
  | file path =>
    refine (hasEffect_ask fun fs => fs.read path).congr fun fs content fs' => ?_
    rw [Content.read, mapError_eq_ok_iff]
  | failing f => exact (hasEffect_throw f).congr fun _ _ _ => by simp [Content.read]

/-- Trying a source saves what is found in it. -/
theorem hasEffect_trySource (s : Source) :
    HasEffect (r.trySource dest s) fun fs available fs' =>
      r.found fs dest s = .ok none ∧ available = false ∧ fs = fs' ∨
      ∃ content arrived, r.found fs dest s = .ok (some content) ∧
        finish r.substitutions content = .ok arrived ∧ available = true ∧
        fs.Saves dest arrived fs' := by
  cases s with
  | directory =>
    refine (hasEffect_bind_option (hasEffect_ask fun fs => r.override? fs dest)
      (hasEffect_pure false) fun file =>
        hasEffect_bind (hasEffect_log _ _) fun _ =>
          hasEffect_bind (hasEffect_ask fun fs => fs.read file) fun content =>
            hasEffect_bind (r.hasEffect_write dest content) fun _ =>
              hasEffect_pure true).congr fun fs available fs' => ?_
    rw [← override?_eq_ok_none_iff]
    constructor
    · rintro (⟨_, ⟨hnone, rfl⟩, rfl, rfl⟩ |
        ⟨file, _, ⟨hfile, rfl⟩, -, _, rfl, content, _, ⟨hread, rfl⟩, -, _,
          ⟨arrived, hfinish, hsaves⟩, rfl, rfl⟩)
      · exact .inl ⟨hnone, rfl, rfl⟩
      · exact .inr ⟨content, arrived, (r.override?_eq_ok_some_iff dest).1 ⟨file, hfile, hread⟩,
          hfinish, rfl, hsaves⟩
    · rintro (⟨hnone, rfl, rfl⟩ | ⟨content, arrived, hfound, hfinish, rfl, hsaves⟩)
      · exact .inl ⟨fs, ⟨hnone, rfl⟩, rfl, rfl⟩
      · obtain ⟨file, hfile, hread⟩ := (r.override?_eq_ok_some_iff dest).2 hfound
        exact .inr ⟨file, fs, ⟨hfile, rfl⟩, (), fs, rfl, content, fs, ⟨hread, rfl⟩, (), fs',
          ⟨arrived, hfinish, hsaves⟩, rfl, rfl⟩
  | default =>
    rw [trySource]
    cases hcontent : r.content with
    | none =>
      refine (hasEffect_pure false).congr fun fs available fs' => ?_
      simp [found, hcontent, eq_comm]
    | some c =>
      refine (hasEffect_bind (hasEffect_log _ _) fun _ =>
        hasEffect_bind (hasEffect_load c) fun content =>
          hasEffect_bind (r.hasEffect_write dest content) fun _ =>
            hasEffect_pure true).congr fun fs available fs' => ?_
      rw [show r.found fs dest .default = (c.read fs).map some by rw [found, hcontent]]
      constructor
      · rintro ⟨-, _, rfl, content, _, ⟨hload, rfl⟩, -, _, ⟨arrived, hfinish, hsaves⟩, rfl, rfl⟩
        exact .inr ⟨content, arrived, by rw [hload]; rfl, hfinish, rfl, hsaves⟩
      · rintro (⟨hnone, -⟩ | ⟨content, arrived, hfound, hfinish, rfl, hsaves⟩)
        · obtain ⟨_, -, ⟨⟩⟩ := except_map_eq_ok_iff.1 hnone
        · obtain ⟨_, hload, ⟨⟩⟩ := except_map_eq_ok_iff.1 hfound
          exact ⟨(), fs, rfl, content, fs, ⟨hload, rfl⟩, (), fs', ⟨arrived, hfinish, hsaves⟩, rfl,
            rfl⟩

theorem hasEffect_saveFrom (order : List Source) :
    HasEffect (r.saveFrom dest order) fun fs source fs' =>
      r.supplyFrom fs dest order = .ok none ∧ source = none ∧ fs = fs' ∨
      ∃ s arrived, r.supplyFrom fs dest order = .ok (some ⟨s, arrived⟩) ∧ source = some s ∧
        fs.Saves dest arrived fs' := by
  induction order with
  | nil => exact (hasEffect_pure none).congr fun fs source fs' => by simp [supplyFrom, eq_comm]
  | cons s rest ih =>
    refine (hasEffect_bind_bool (r.hasEffect_trySource dest s) ih
      (hasEffect_pure (some s))).congr fun fs source fs' => ?_
    cases hfound : r.found fs dest s with
    | error e => simp [supplyFrom, hfound]
    | ok content? =>
      cases content? with
      | none => simp [supplyFrom, hfound]
      | some content =>
        cases hfinish : finish r.substitutions content with
        | error p => simp [supplyFrom, hfound, Except.map, hfinish]
        | ok arrived =>
          have hsupply : r.supplyFrom fs dest (s :: rest) = .ok (some ⟨s, arrived⟩) := by
            rw [supplyFrom, hfound]
            simp only [hfinish, Except.map, mapError_ok]
          constructor
          · rintro (⟨_, ⟨⟨⟩, -⟩ | ⟨_, _, -, -, ⟨⟩, -⟩, -⟩ | ⟨_, ⟨⟨⟩, -⟩ |
              ⟨_, _, hcontent, harrived, -, hsaves⟩, rfl, rfl⟩)
            obtain rfl := Option.some.inj (Except.ok.inj hcontent)
            obtain rfl := Except.ok.inj (hfinish.symm.trans harrived)
            exact .inr ⟨s, arrived, hsupply, rfl, hsaves⟩
          · rw [hsupply]
            rintro (⟨⟨⟩, -⟩ | ⟨_, _, ⟨⟩, rfl, hsaves⟩)
            exact .inr ⟨fs', .inr ⟨content, arrived, rfl, hfinish, rfl, hsaves⟩, rfl, rfl⟩

/-- Saving a resource saves what it has to save, if anything. -/
theorem hasEffect_save :
    HasEffect (r.save dest) fun fs source fs' =>
      r.supply fs dest = .ok none ∧ source = none ∧ fs = fs' ∨
      ∃ s arrived, r.supply fs dest = .ok (some ⟨s, arrived⟩) ∧ source = some s ∧
        fs.Saves dest arrived fs' :=
  r.hasEffect_saveFrom dest r.order

/-! ### Resources that cannot be saved -/

theorem failsCleanly_write (content : List UInt8) : FailsCleanly (r.write dest content) :=
  failsCleanly_bind (failsCleanly_lift id _) (hasEffect_lift id _)
    (fun fs _ _ h => h.2 ▸ .refl fs) fun _ =>
      failsCleanly_bind (failsCleanly_makeDirectories dest.parent)
        (hasEffect_makeDirectories dest.parent) (fun _ _ _ => addsDirectories_makeDirectories)
        fun _ => failsCleanly_change _

theorem failsCleanly_load (c : Content) : FailsCleanly c.load := by
  cases c with
  | bytes content => exact failsCleanly_pure content
  | file path => exact failsCleanly_ask fun fs => fs.read path
  | failing f => exact failsCleanly_throw f

theorem failsCleanly_trySource (s : Source) : FailsCleanly (r.trySource dest s) := by
  have hlog (level : Level) (text : String) (g : Unit → Action Bool)
      (hg : ∀ u, FailsCleanly (g u)) : FailsCleanly (log level text >>= g) :=
    failsCleanly_bind (failsCleanly_modify _) (hasEffect_log level text)
      (fun fs _ _ h => h ▸ .refl fs) hg
  cases s with
  | directory =>
    refine failsCleanly_bind (failsCleanly_ask _) (hasEffect_ask _)
      (fun fs _ _ h => h.2 ▸ .refl fs) fun file? => ?_
    cases file? with
    | none => exact failsCleanly_pure false
    | some file =>
      refine hlog _ _ _ fun _ => failsCleanly_bind (failsCleanly_ask _) (hasEffect_ask _)
        (fun fs _ _ h => h.2 ▸ .refl fs) fun content => ?_
      exact failsCleanly_bind_pure (r.failsCleanly_write dest content) fun _ => true
  | default =>
    rw [trySource]
    cases r.content with
    | none => exact failsCleanly_pure false
    | some c =>
      refine hlog _ _ _ fun _ => failsCleanly_bind (failsCleanly_load c) (hasEffect_load c)
        (fun fs _ _ h => h.2 ▸ .refl fs) fun content => ?_
      exact failsCleanly_bind_pure (r.failsCleanly_write dest content) fun _ => true

theorem failsCleanly_saveFrom (order : List Source) : FailsCleanly (r.saveFrom dest order) := by
  induction order with
  | nil => exact failsCleanly_pure none
  | cons s rest ih =>
    intro σ f σ' h
    rcases bind_eq_error_iff.1 h with h | ⟨available, σ₁, htry, h⟩
    · exact r.failsCleanly_trySource dest s σ f σ' h
    · -- Only a source that is not available leads on to the next one.
      rcases (r.hasEffect_trySource dest s).of_ok htry with ⟨-, rfl, hfiles⟩ | ⟨_, _, -, -, rfl, -⟩
      · rw [hfiles]
        exact ih σ₁ f σ' h
      · cases h

/-- A resource that cannot be saved adds directories at most. -/
theorem failsCleanly_save : FailsCleanly (r.save dest) :=
  r.failsCleanly_saveFrom dest r.order

end Effect

/-! ### What a resource looks for -/

/-- The files that a source looks for. -/
def paths (r : Resource) (dest : Path) : Source → List Path
  | .directory => (r.candidate? dest).toList
  | .default =>
    match r.content with
    | some (.file path) => [path]
    | _ => []

/-- The files that the sources of a resource look for. -/
def lookedUp (r : Resource) (dest : Path) : List Path :=
  r.order.flatMap (r.paths dest)

section LookUp

variable {r : Resource} {dest : Path} {fs fs' : FileSystem}

theorem found_of_lookUp {s : Source} {content? : Option (List UInt8)}
    (h : ∀ p ∈ r.paths dest s, fs'.lookUp p = fs.lookUp p)
    (hfound : r.found fs dest s = .ok content?) : r.found fs' dest s = .ok content? := by
  cases s with
  | directory =>
    rw [found] at hfound ⊢
    cases hfile : r.candidate? dest with
    | none => rwa [hfile] at hfound
    | some file =>
      rw [hfile] at hfound
      dsimp only at hfound ⊢
      rwa [h file (by simp [paths, hfile])]
  | default =>
    rw [found] at hfound ⊢
    cases hcontent : r.content with
    | none => rwa [hcontent] at hfound
    | some c =>
      rw [hcontent] at hfound
      cases c with
      | bytes content => exact hfound
      | file path =>
        obtain ⟨content, hread, rfl⟩ := except_map_eq_ok_iff.1 hfound
        refine except_map_eq_ok_iff.2 ⟨content, ?_, rfl⟩
        rw [Content.read, mapError_eq_ok_iff, read_eq_ok_iff, ← lookUp_eq_some_iff] at hread ⊢
        exact (h path (by simp [paths, hcontent])).trans hread
      | failing f => exact hfound

/-- What a resource has to save stays the same for as long as the files that it looks for
    do. -/
theorem supply_of_lookUp {v : Option Supply}
    (h : ∀ p ∈ r.lookedUp dest, fs'.lookUp p = fs.lookUp p)
    (hsupply : r.supply fs dest = .ok v) : r.supply fs' dest = .ok v := by
  have hfrom (order : List Source)
      (h : ∀ p ∈ order.flatMap (r.paths dest), fs'.lookUp p = fs.lookUp p)
      (hsupply : r.supplyFrom fs dest order = .ok v) : r.supplyFrom fs' dest order = .ok v := by
    induction order with
    | nil => exact hsupply
    | cons s rest ih =>
      rw [List.flatMap_cons, List.forall_mem_append] at h
      rw [supplyFrom] at hsupply ⊢
      cases hfound : r.found fs dest s with
      | error e => simp [hfound] at hsupply
      | ok content? =>
        rw [hfound] at hsupply
        rw [found_of_lookUp h.1 hfound]
        cases content? with
        | none => exact ih h.2 hsupply
        | some content => exact hsupply
  exact hfrom r.order h hsupply

end LookUp

end Resource

end InstallerKit
