import InstallerKit.Proofs.Resource.Staging

/-!
# Where staging writes

An entry is saved where its name leads from the directory, and a name leads wherever a path
does: down into other directories, to the root, or out of the directory. So staging changes
no file but those that the names lead to, and these are in the directory for the names that
lead inside. Nothing keeps a name from leading out.

* `leadsInside_iff`: the names that lead inside, whatever the directory is;
* `exists_entry_of_content_ne`: the files that staging changes;
* `materialize_of_leading_out`: a file outside of the directory.
-/

namespace InstallerKit

open InstallerKit.Action FileSystem

/-- The session that an action leaves behind, whether or not it fails. -/
def Action.leaves {α : Type} (x : Action α) (σ : Session) : Session :=
  match x σ with
  | .ok _ σ' | .error _ σ' => σ'

/-! ### Names that lead inside -/

namespace Path

/-- The place of a name as seen from one, if it is not outside of where the path starts. -/
def enterInside (place : List String) (name : String) : Option (List String) :=
  if name = ".." then if place = [] then none else some place.dropLast
  else some (place ++ [name])

/-- Where a path ends as seen from where it starts, if it never leads out of there. -/
def inner? (p : Path) : Option (List String) :=
  if p.isAbsolute then none else p.names.foldlM enterInside []

end Path

namespace FileSystem

variable {names place place' : List String} {name : String}

theorem goal_child_of_isAbsolute (fs : FileSystem) (directory : Path) {target : String}
    (h : (Path.ofString target).isAbsolute = true) :
    fs.goal (directory.child target) = (Path.ofString target).names.foldl enter [] := by
  rw [show directory.child target = Path.ofString target from if_pos h, goal, start, if_pos h]

theorem goal_child (fs : FileSystem) (directory : Path) {target : String}
    (h : (Path.ofString target).isAbsolute = false) :
    fs.goal (directory.child target) =
      (Path.ofString target).names.foldl enter (fs.goal directory) := by
  rw [show directory.child target =
      { directory with names := directory.names ++ (Path.ofString target).names } from
    if_neg (by simp [h]), goal, List.foldl_append]
  rfl

theorem foldl_enter_of_foldlM_enterInside (h : names.foldlM Path.enterInside place = some place')
    (above : List String) : names.foldl enter (above ++ place) = above ++ place' := by
  induction names generalizing place with
  | nil => rw [List.foldl_nil, Option.some.inj h]
  | cons name names ih =>
    obtain ⟨next, hname, h⟩ := Option.bind_eq_some_iff.1 h
    rw [List.foldl_cons, ← ih h]
    congr 1
    rw [Path.enterInside] at hname
    rw [enter]
    split at hname
    · next hup =>
      split at hname
      · cases hname
      · next hne => rw [if_pos hup, ← Option.some.inj hname, List.dropLast_append_of_ne_nil hne]
    · next hdown => rw [if_neg hdown, ← Option.some.inj hname, List.append_assoc]

theorem mem_foldl_enter (h : name ∈ names.foldl enter place) : name ∈ place ∨ name ∈ names := by
  induction names generalizing place with
  | nil => exact .inl h
  | cons n names ih =>
    rcases ih h with h | h
    · rw [enter] at h
      split at h
      · exact .inl (List.dropLast_subset place h)
      · rcases List.mem_append.1 h with h | h
        · exact .inl h
        · exact .inr (List.mem_cons.2 (.inl (List.mem_singleton.1 h)))
    · exact .inr (List.mem_cons_of_mem n h)

/-- What leads out of a directory leaves its name behind. -/
theorem not_mem_of_foldlM_enterInside (h : names.foldlM Path.enterInside place = none)
    (hplace : name ∉ place) (hname : name ∉ names) :
    name ∉ names.foldl enter (name :: place) := by
  induction names generalizing place with
  | nil => cases h
  | cons n names ih =>
    rw [List.mem_cons, not_or] at hname
    rw [List.foldlM_cons, Path.enterInside] at h
    rw [List.foldl_cons, enter]
    by_cases hup : n = ".."
    · rw [if_pos hup] at h ⊢
      cases place with
      | nil =>
        intro hmem
        rcases mem_foldl_enter hmem with hmem | hmem
        · cases hmem
        · exact hname.2 hmem
      | cons m place =>
        exact ih h (fun hm => hplace (List.dropLast_subset _ hm)) hname.2
    · rw [if_neg hup] at h ⊢
      have hnext : name ∉ place ++ [n] := by
        rw [List.mem_append, List.mem_singleton, not_or]
        exact ⟨hplace, hname.1⟩
      exact ih h hnext hname.2

end FileSystem

namespace Staging

/-- A name leads into the directory that it is looked for in, without ever leading out. -/
def LeadsInside (target : String) : Prop :=
  ∃ names, (Path.ofString target).inner? = some names ∧ names ≠ []

theorem exists_not_mem (names : List String) : ∃ name, name ∉ names := by
  have hbound : ∃ bound, ∀ n ∈ names, n.length < bound := by
    induction names with
    | nil => exact ⟨0, by simp⟩
    | cons n names ih =>
      obtain ⟨bound, hbound⟩ := ih
      refine ⟨max bound (n.length + 1), fun m hm => ?_⟩
      rcases List.mem_cons.1 hm with rfl | hm
      · omega
      · exact Nat.lt_of_lt_of_le (hbound m hm) (Nat.le_max_left _ _)
  obtain ⟨bound, hbound⟩ := hbound
  refine ⟨.ofList (List.replicate bound 'a'), fun hmem => ?_⟩
  have hlength := hbound _ hmem
  simp at hlength

/-- The names that lead inside are those that do so whatever the directory is. -/
theorem leadsInside_iff {target : String} :
    LeadsInside target ↔ ∀ (fs : FileSystem) (directory : Path),
      ∃ names ≠ [], fs.goal (directory.child target) = fs.goal directory ++ names := by
  constructor
  · rintro ⟨names, hinner, hne⟩ fs directory
    rw [Path.inner?] at hinner
    split at hinner
    · cases hinner
    · next hrelative =>
      refine ⟨names, hne, ?_⟩
      rw [goal_child fs directory (by simpa using hrelative)]
      have hfold := foldl_enter_of_foldlM_enterInside hinner (fs.goal directory)
      rwa [List.append_nil] at hfold
  · intro h
    -- A name that leads out of a directory cannot come back to one of a name it does not know.
    obtain ⟨name, hname⟩ := exists_not_mem (".." :: (Path.ofString target).names)
    rw [List.mem_cons, not_or] at hname
    obtain ⟨names, hne, hgoal⟩ := h ⟨[], []⟩ ⟨.slash, [name]⟩
    have hdirectory : goal ⟨[], []⟩ ⟨.slash, [name]⟩ = [name] := by
      rw [goal, List.foldl_cons, List.foldl_nil, enter, if_neg hname.1]
      rfl
    rw [hdirectory, List.singleton_append] at hgoal
    have hmem : name ∈ goal ⟨[], []⟩ (Path.child ⟨.slash, [name]⟩ target) := by
      rw [hgoal]
      exact List.mem_cons_self
    by_cases habsolute : (Path.ofString target).isAbsolute = true
    · rw [goal_child_of_isAbsolute _ _ habsolute] at hmem
      rcases mem_foldl_enter hmem with hmem | hmem
      · cases hmem
      · exact absurd hmem hname.2
    · rw [goal_child _ _ (by simpa using habsolute), hdirectory] at hgoal hmem
      cases hinner : (Path.ofString target).names.foldlM Path.enterInside [] with
      | none => exact absurd hmem (not_mem_of_foldlM_enterInside hinner (by simp) hname.2)
      | some inner =>
        refine ⟨inner, (if_neg habsolute).trans hinner, ?_⟩
        rintro rfl
        have hfold := foldl_enter_of_foldlM_enterInside hinner [name]
        rw [List.append_nil, hgoal] at hfold
        exact hne (List.cons.inj hfold).2

/-! ### The files that staging changes -/

/-- Whether or not it fails, staging changes no file but those that the names of its entries
    lead to, and none outside of the directory for a name that leads inside. -/
theorem exists_entry_of_content_ne {directory : Path} {entries : List Entry} {σ : Session}
    {place : List String}
    (h : (leaves (materialize directory entries) σ).files.content? place ≠
      σ.files.content? place) :
    ∃ e ∈ entries, place = σ.files.goal (e.dest directory) ∧
      (LeadsInside e.target → ∃ names ≠ [], place = σ.files.goal directory ++ names) := by
  obtain ⟨steps, σ₁, hpasses, hentries⟩ := exists_passes directory entries σ
  obtain ⟨hsubset, hchanged⟩ : (∀ e ∈ steps.map Step.entry, e ∈ entries) ∧
      σ₁.files.content? place ≠ σ.files.content? place := by
    rcases hentries with rfl | ⟨e, after, f, σ₂, rfl, he⟩
    · rw [leaves, hpasses.materialize_ok] at h
      exact ⟨fun _ => id, h⟩
    · rw [leaves, hpasses.materialize_error he] at h
      rw [← (failsCleanly_attempt directory e σ₁ f σ₂ he).content?]
      exact ⟨fun _ he' => List.mem_append_left _ he', h⟩
  obtain ⟨s, hs, -, hplace⟩ := hpasses.haveStaged.exists_step hchanged
  refine ⟨s.entry, hsubset _ (List.mem_map_of_mem hs), hplace, fun hinside => ?_⟩
  obtain ⟨names, hne, hgoal⟩ := leadsInside_iff.1 hinside σ.files directory
  exact ⟨names, hne, hplace.trans hgoal⟩

/-- A file is saved in a directory that is made for it. -/
theorem exists_entry_of_nested_target :
    let e : Entry := ⟨.resource { Resource.empty with content := some (.bytes [104, 105]) },
      "./sub/../lib/x.txt"⟩
    let σ : Session := ⟨.withDirectory ["work"], [], []⟩
    let place := ["work", "out", "lib", "x.txt"]
    (leaves (materialize (.ofString "out") [e]) σ).files.content? place = some [104, 105] ∧
      LeadsInside e.target ∧ σ.files.goal (.ofString "out") = ["work", "out"] ∧
      ∃ e' ∈ [e], place = σ.files.goal (e'.dest (.ofString "out")) ∧
        (LeadsInside e'.target →
          ∃ names ≠ [], place = σ.files.goal (.ofString "out") ++ names) := by
  intro e σ place
  have hafter : (leaves (materialize (.ofString "out") [e]) σ).files.content? place =
      some [104, 105] := by
    decide +kernel
  have hbefore : σ.files.content? place = none := by decide +kernel
  refine ⟨hafter, ⟨["lib", "x.txt"], by decide +kernel, by decide⟩, by decide +kernel, ?_⟩
  exact exists_entry_of_content_ne (by rw [hafter, hbefore]; simp)

/-- Nothing keeps a name from leading out of the directory. A file is saved next to it. -/
theorem materialize_of_leading_out :
    let item : Item := .resource { Resource.empty with content := some (.bytes [104, 105]) }
    let σ : Session := ⟨.withDirectory ["work"], [], []⟩
    ∃ entries, add [] item "../x.txt" = .ok entries ∧
      σ.files.goal (.ofString "out") = ["work", "out"] ∧
      σ.files.content? ["work", "x.txt"] = none ∧
      (leaves (materialize (.ofString "out") entries) σ).files.content? ["work", "x.txt"] =
        some [104, 105] :=
  ⟨_, rfl, by decide +kernel, by decide +kernel, by decide +kernel⟩

end Staging

end InstallerKit
