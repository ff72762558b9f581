import InstallerKit.Proofs.FileSystem.Place

/-!
# Saving files

A file is saved by making the directories above it and then writing it. Making directories
adds directories and nothing else, even if it fails half way, and does nothing where they are
all there. So saving changes no file but one, which is then found with the content that was
written; and saving it again only writes it.

* `AddsDirectories`: directories have been added where nothing was;
* `addsDirectories_makeDirectories`, `makeDirectories_of_find`: what making directories does;
* `Saves`, `Receives`: a file has been saved;
* `CanSave`: a file can be saved.
-/

namespace InstallerKit.FileSystem

variable {fs fs' fs'' made : FileSystem} {p : Path} {place : List String}

/-! ### Adding directories -/

/-- Directories have been added where nothing was, and nothing else has changed. -/
structure AddsDirectories (fs fs' : FileSystem) : Prop where
  workingDirectory : fs'.workingDirectory = fs.workingDirectory
  entry : ∀ place, fs'.entry place = fs.entry place ∨
    fs.entry place = none ∧ fs'.entry place = some .directory

namespace AddsDirectories

theorem refl (fs : FileSystem) : fs.AddsDirectories fs :=
  ⟨rfl, fun _ => .inl rfl⟩

theorem trans (h : fs.AddsDirectories fs') (h' : fs'.AddsDirectories fs'') :
    fs.AddsDirectories fs'' := by
  refine ⟨h'.workingDirectory.trans h.workingDirectory, fun place => ?_⟩
  rcases h'.entry place with he' | ⟨hnone, hdirectory⟩
  · rw [he']
    exact h.entry place
  · rcases h.entry place with he | ⟨-, hd⟩
    · exact .inr ⟨he ▸ hnone, hdirectory⟩
    · rw [hd] at hnone
      cases hnone

theorem content? (h : fs.AddsDirectories fs') (place : List String) :
    fs'.content? place = fs.content? place := by
  rcases h.entry place with he | ⟨hnone, hdirectory⟩
  · exact content?_congr he
  · rw [FileSystem.content?, FileSystem.content?, hnone, hdirectory]

theorem keeps (h : fs.AddsDirectories fs') : fs.Keeps fs' where
  workingDirectory := h.workingDirectory
  directory {place} hd := by
    rcases h.entry place with he | ⟨-, hd'⟩
    · exact he.trans hd
    · exact hd'
  file {place} hf := by rwa [h.content?]

end AddsDirectories

theorem addsDirectories_makeDirectory (h : fs.makeDirectory p = .ok made) :
    fs.AddsDirectories made := by
  obtain ⟨-, hnone, rfl⟩ := makeDirectory_eq_ok_iff.1 h
  have hne : fs.goal p ≠ [] := by
    intro hnil
    rw [hnil] at hnone
    cases hnone
  refine ⟨rfl, fun place => ?_⟩
  rw [entry_set fs hne]
  split
  · next heq => exact .inr ⟨heq ▸ hnone, rfl⟩
  · exact .inl rfl

theorem find_of_makeDirectory (h : fs.makeDirectory p = .ok made) :
    made.find p = .ok .directory := by
  have hadds := addsDirectories_makeDirectory h
  obtain ⟨hleads, hnone, rfl⟩ := makeDirectory_eq_ok_iff.1 h
  have hne : fs.goal p ≠ [] := by
    intro hnil
    rw [hnil] at hnone
    cases hnone
  refine find_eq_ok_iff.2 ⟨hadds.keeps.leads hleads, ?_⟩
  rw [hadds.keeps.goal, entry_set fs hne, if_pos rfl]

theorem isDirectory_eq_ok_true_iff : fs.isDirectory p = .ok true ↔ fs.find p = .ok .directory := by
  rw [← find?_eq_ok_some_iff, isDirectory]
  cases fs.find? p with
  | error e => simp [bind, Except.bind]
  | ok e =>
    match e with
    | none | some .directory | some (.file _) => simp [bind, Except.bind, pure, Except.pure]

theorem addsDirectories_ensureDirectory (fs : FileSystem) (p : Path) (during : List Error) :
    fs.AddsDirectories (fs.ensureDirectory p during).1 := by
  unfold ensureDirectory
  split
  · next h => exact addsDirectories_makeDirectory h
  · exact .refl fs
  · exact .refl fs
  · split <;> exact .refl fs

/-- A directory that is there after all is there. -/
theorem find_of_ensureDirectory {during : List Error}
    (h : fs.ensureDirectory p during = (made, none)) : made.find p = .ok .directory := by
  unfold ensureDirectory at h
  split at h
  · next hmade =>
    obtain ⟨rfl, -⟩ := Prod.mk.inj h
    exact find_of_makeDirectory hmade
  · cases (Prod.mk.inj h).2
  · cases (Prod.mk.inj h).2
  · split at h
    · next hdirectory =>
      obtain ⟨rfl, -⟩ := Prod.mk.inj h
      exact isDirectory_eq_ok_true_iff.1 hdirectory
    · cases (Prod.mk.inj h).2
    · cases (Prod.mk.inj h).2

theorem addsDirectories_makeDirectoriesFrom (fs : FileSystem) (p : Path) (during : List Error)
    (above : Nat) : fs.AddsDirectories (fs.makeDirectoriesFrom p during above).1 := by
  induction above generalizing p during with
  | zero => exact addsDirectories_ensureDirectory fs p during
  | succ above ih =>
    rw [makeDirectoriesFrom]
    split
    · next q h =>
      dsimp only
      split
      · next made hmade =>
        have hadds := ih p.parent (.refused .missing q :: during)
        rw [hmade] at hadds
        exact hadds.trans (addsDirectories_ensureDirectory made p _)
      · exact ih p.parent _
    · exact addsDirectories_ensureDirectory fs p during

theorem find_of_makeDirectoriesFrom {during : List Error} {above : Nat}
    (h : fs.makeDirectoriesFrom p during above = (made, none)) :
    made.find p = .ok .directory := by
  cases above with
  | zero => exact find_of_ensureDirectory h
  | succ above =>
    rw [makeDirectoriesFrom] at h
    split at h
    · dsimp only at h
      split at h
      · exact find_of_ensureDirectory h
      · next hfailed =>
        exact absurd h (hfailed made)
    · exact find_of_ensureDirectory h

theorem addsDirectories_makeDirectories {failure : Option Failure}
    (h : fs.makeDirectories p = (made, failure)) : fs.AddsDirectories made := by
  have hadds := addsDirectories_makeDirectoriesFrom fs p [] p.names.length
  rwa [show fs.makeDirectoriesFrom p [] p.names.length = (made, failure) from h] at hadds

theorem find_of_makeDirectories (h : fs.makeDirectories p = (made, none)) :
    made.find p = .ok .directory :=
  find_of_makeDirectoriesFrom h

theorem ensureDirectory_of_find (h : fs.find p = .ok .directory) (during : List Error) :
    fs.ensureDirectory p during = (fs, none) := by
  obtain ⟨hleads, hentry⟩ := find_eq_ok_iff.1 h
  have hmake : fs.makeDirectory p = .error (.refused .exists p) := by
    rw [makeDirectory, show fs.locate p = .ok (fs.goal p) from hleads]
    simp [bind, Except.bind, hentry]
  rw [ensureDirectory, hmake]
  simp [isDirectory_eq_ok_true_iff.2 h]

/-- Nothing is made where there is a directory already. -/
theorem makeDirectories_of_find (h : fs.find p = .ok .directory) :
    fs.makeDirectories p = (fs, none) := by
  obtain ⟨hleads, hentry⟩ := find_eq_ok_iff.1 h
  have hmake : fs.makeDirectory p = .error (.refused .exists p) := by
    rw [makeDirectory, show fs.locate p = .ok (fs.goal p) from hleads]
    simp [bind, Except.bind, hentry]
  rw [makeDirectories]
  cases p.names.length with
  | zero => exact ensureDirectory_of_find h []
  | succ above =>
    rw [makeDirectoriesFrom, hmake]
    exact ensureDirectory_of_find h []

/-! ### Saving a file -/

theorem ne_nil_of_entry_ne (h : fs.entry place ≠ some .directory) : place ≠ [] := by
  rintro rfl
  exact h rfl

theorem keeps_set (h : fs.entry place ≠ some .directory) (content : List UInt8) :
    fs.Keeps (fs.set place (.file content)) where
  workingDirectory := rfl
  directory {other} hd := by
    rw [entry_set fs (ne_nil_of_entry_ne h), if_neg]
    · exact hd
    · rintro rfl
      exact h hd
  file {other} hf := by
    rw [content?_set (ne_nil_of_entry_ne h)]
    split
    · rfl
    · exact hf

/-- Writing a file anew adds nothing. -/
theorem sameShape_set {old : List UInt8} (h : fs.entry place = some (.file old))
    (content : List UInt8) : fs.SameShape (fs.set place (.file content)) := by
  have hne : fs.entry place ≠ some .directory := by simp [h]
  refine ⟨keeps_set hne content, rfl, fun {other} hd => ?_, fun {other} hf => ?_⟩
  · rw [entry_set fs (ne_nil_of_entry_ne hne)] at hd
    split at hd
    · cases hd
    · exact hd
  · rw [content?_set (ne_nil_of_entry_ne hne)] at hf
    split at hf
    · next heq =>
      rw [heq, content?_eq_some_iff.2 h]
      rfl
    · exact hf

theorem set_set (fs : FileSystem) (place : List String) (e e' : Entry) :
    (fs.set place e).set place e' = fs.set place e' := by
  have hput (entries : List (List String × Entry)) :
      Table.put place e' (Table.put place e entries) = Table.put place e' entries := by
    induction entries with
    | nil => simp [Table.put]
    | cons entry entries ih =>
      by_cases hplace : entry.1 == place <;> simp [Table.put, hplace, ih]
  rw [set, set, set, hput]

/-- A file that is written twice is as if only the second content had been written. -/
theorem write_write_iff {content content' : List UInt8} :
    (∃ between, fs.write p content = .ok between ∧ between.write p content' = .ok fs') ↔
      fs.write p content' = .ok fs' := by
  simp only [write_eq_ok_iff]
  constructor
  · rintro ⟨_, ⟨hleads, hne, rfl⟩, -, -, rfl⟩
    rw [(keeps_set hne content).goal, set_set]
    exact ⟨hleads, hne, rfl⟩
  · rintro ⟨hleads, hne, rfl⟩
    have hkeeps := keeps_set hne content
    refine ⟨_, ⟨hleads, hne, rfl⟩, hkeeps.leads hleads, ?_, ?_⟩
    · rw [hkeeps.goal, entry_set fs (ne_nil_of_entry_ne hne), if_pos rfl]
      simp
    · rw [hkeeps.goal, set_set]

/-- A file that has been written can be written again. -/
theorem exists_write_of_write {content : List UInt8} (h : fs.write p content = .ok fs')
    (content' : List UInt8) : ∃ fs'', fs'.write p content' = .ok fs'' := by
  obtain ⟨hleads, hne, -⟩ := write_eq_ok_iff.1 h
  obtain ⟨between, hbetween, hwrite⟩ := write_write_iff.2 (write_eq_ok_iff.2 ⟨hleads, hne, rfl⟩)
  obtain rfl := Except.ok.inj (h.symm.trans hbetween)
  exact ⟨_, hwrite⟩

/-- A content has been saved under a path: the directories above it have been made, and the
    file has been written. -/
def Saves (fs : FileSystem) (p : Path) (content : List UInt8) (fs' : FileSystem) : Prop :=
  ∃ made, fs.makeDirectories p.parent = (made, none) ∧ made.write p content = .ok fs'

/-- The file system with a content saved under a path. -/
def withFile (fs : FileSystem) (p : Path) (content : List UInt8) : FileSystem :=
  (fs.makeDirectories p.parent).1.set (fs.goal p) (.file content)

namespace Saves

variable {content : List UInt8}

theorem eq (h : fs.Saves p content fs') : fs.withFile p content = fs' := by
  obtain ⟨made, hmade, hwrite⟩ := h
  have hadds := addsDirectories_makeDirectories hmade
  rw [withFile, hmade, ← hadds.keeps.goal]
  exact (write_eq_ok_iff.1 hwrite).2.2

theorem keeps (h : fs.Saves p content fs') : fs.Keeps fs' := by
  obtain ⟨made, hmade, hwrite⟩ := h
  have hadds := addsDirectories_makeDirectories hmade
  obtain ⟨-, hne, rfl⟩ := write_eq_ok_iff.1 hwrite
  exact hadds.keeps.trans (keeps_set hne content)

/-- Saving changes the content of one file. -/
theorem content? (h : fs.Saves p content fs') (place : List String) :
    fs'.content? place = if place = fs.goal p then some content else fs.content? place := by
  obtain ⟨made, hmade, hwrite⟩ := h
  have hadds := addsDirectories_makeDirectories hmade
  obtain ⟨-, hne, rfl⟩ := write_eq_ok_iff.1 hwrite
  rw [content?_set (ne_nil_of_entry_ne hne), hadds.keeps.goal, hadds.content?]

theorem find (h : fs.Saves p content fs') : fs'.find p = .ok (.file content) := by
  have hcontent := h.content? (fs.goal p)
  rw [if_pos rfl, ← h.keeps.goal, content?_eq_some_iff] at hcontent
  obtain ⟨made, hmade, hwrite⟩ := h
  obtain ⟨hleads, hne, rfl⟩ := write_eq_ok_iff.1 hwrite
  exact find_eq_ok_iff.2 ⟨(keeps_set hne content).leads hleads, hcontent⟩

theorem find_parent (h : fs.Saves p content fs') : fs'.find p.parent = .ok .directory := by
  obtain ⟨made, hmade, hwrite⟩ := h
  obtain ⟨-, hne, rfl⟩ := write_eq_ok_iff.1 hwrite
  exact (keeps_set hne content).find_directory (find_of_makeDirectories hmade)

/-- A file that has been saved is saved again by writing it, which adds nothing. -/
theorem again (h : fs.Saves p content fs') {files : FileSystem} (hkeeps : fs'.Keeps files)
    (content' : List UInt8) :
    files.Saves p content' (files.withFile p content') ∧
      files.SameShape (files.withFile p content') := by
  obtain ⟨old, hold⟩ := hkeeps.lookUp_some (lookUp_eq_some_iff.2 h.find)
  obtain ⟨hleads, hentry⟩ := find_eq_ok_iff.1 (lookUp_eq_some_iff.1 hold)
  have hmade := makeDirectories_of_find (hkeeps.find_directory h.find_parent)
  have hne : files.entry (files.goal p) ≠ some .directory := by simp [hentry]
  rw [withFile, hmade]
  exact ⟨⟨files, hmade, write_eq_ok_iff.2 ⟨hleads, hne, rfl⟩⟩, sameShape_set hentry content'⟩

end Saves

/-- A file can be saved under a path: the directories above it can be made, and it then leads to
    where there is no directory. -/
def CanSave (fs : FileSystem) (p : Path) : Prop :=
  ∃ made, fs.makeDirectories p.parent = (made, none) ∧ made.Leads p ∧
    made.entry (made.goal p) ≠ some .directory

/-- Whether a file can be saved does not depend on its content. -/
theorem canSave_iff (fs : FileSystem) (p : Path) (content : List UInt8) :
    fs.CanSave p ↔ fs.Saves p content (fs.withFile p content) := by
  constructor
  · rintro ⟨made, hmade, hleads, hne⟩
    have hsaves : fs.Saves p content (made.set (made.goal p) (.file content)) :=
      ⟨made, hmade, write_eq_ok_iff.2 ⟨hleads, hne, rfl⟩⟩
    rwa [hsaves.eq]
  · rintro ⟨made, hmade, hwrite⟩
    obtain ⟨hleads, hne, -⟩ := write_eq_ok_iff.1 hwrite
    exact ⟨made, hmade, hleads, hne⟩

theorem canSave_iff_isSome (fs : FileSystem) (p : Path) :
    fs.CanSave p ↔ (fs.makeDirectories p.parent).2 = none ∧
      ((fs.makeDirectories p.parent).1.write p []).toOption.isSome := by
  rw [canSave_iff fs p [], Option.isSome_iff_exists]
  constructor
  · rintro ⟨made, hmade, hwrite⟩
    rw [hmade, hwrite]
    exact ⟨rfl, _, rfl⟩
  · rintro ⟨hnone, files, hfiles⟩
    have hmade : fs.makeDirectories p.parent = ((fs.makeDirectories p.parent).1, none) :=
      Prod.ext rfl hnone
    cases hwrite : (fs.makeDirectories p.parent).1.write p [] with
    | error e => rw [hwrite] at hfiles; cases hfiles
    | ok written =>
      have hsaves : fs.Saves p [] written := ⟨_, hmade, hwrite⟩
      rwa [hsaves.eq]

instance (fs : FileSystem) (p : Path) : Decidable (fs.CanSave p) :=
  decidable_of_iff _ (canSave_iff_isSome fs p).symm

/-- A content has been saved under a path, if there was one to save. -/
def Receives (fs : FileSystem) (p : Path) : Option (List UInt8) → FileSystem → Prop
  | none, fs' => fs = fs'
  | some content, fs' => fs.Saves p content fs'

theorem Receives.keeps {content? : Option (List UInt8)} (h : fs.Receives p content? fs') :
    fs.Keeps fs' := by
  cases content? with
  | none => exact h ▸ .refl fs
  | some content => exact Saves.keeps h

end InstallerKit.FileSystem
