import InstallerKit.FileSystem.Basic

/-!
# Places

A path leads to a place, name by name, as long as every place on the way is a directory.
Which place that is depends on the names alone; what is there only decides whether the path
leads there. So a path that leads somewhere leads to the same place for as long as the
directories stay, whatever happens to the files.

* `goal`: the place that a path leads to, if it leads anywhere (`Leads`);
* `content?`: the content of the file at a place;
* `Keeps`: nothing that was there is gone;
* `SameShape`: only the contents of files may differ;
* `lookUp`: the content of the file that a path leads to, if there is one.
-/

namespace InstallerKit

@[simp] theorem mapError_ok {ε ε' α : Type} (f : ε → ε') (a : α) :
    (Except.ok a : Except ε α).mapError f = .ok a :=
  rfl

@[simp] theorem mapError_error {ε ε' α : Type} (f : ε → ε') (e : ε) :
    (Except.error e : Except ε α).mapError f = .error (f e) :=
  rfl

namespace FileSystem

variable {fs fs' fs'' : FileSystem} {p : Path} {place place' : List String}

/-! ### Where paths lead -/

/-- The place of a name as seen from a directory. -/
def enter (place : List String) (name : String) : List String :=
  if name = ".." then place.dropLast else place ++ [name]

/-- The place that a path leads to, if it leads anywhere. -/
def goal (fs : FileSystem) (p : Path) : List String :=
  p.names.foldl enter (fs.start p)

/-- A path leads somewhere, though there may be nothing. -/
def Leads (fs : FileSystem) (p : Path) : Prop :=
  fs.locate p = .ok (fs.goal p)

theorem goal_congr (h : fs'.workingDirectory = fs.workingDirectory) (p : Path) :
    fs'.goal p = fs.goal p := by
  rw [goal, goal, start, start, h]

theorem step_eq_ok_iff {name : String} :
    fs.step place name = .ok place' ↔ fs.entry place = some .directory ∧
      (name = ".." ∨ ¬ maxNameBytes < (Text.Utf8.encode name.toList).length) ∧
      enter place name = place' := by
  rw [step, enter]
  cases fs.entry place with
  | none => simp
  | some e =>
    cases e with
    | file content => simp
    | directory =>
      by_cases hname : name = ".."
      · simp [hname]
      · by_cases hlong : maxNameBytes < (Text.Utf8.encode name.toList).length
        · simp only [hname, hlong, if_true, if_false, not_true, or_false, false_and, and_false,
            iff_false]
          intro h
          cases h
        · simp [hname, hlong]

theorem foldlM_step_cons_eq_ok_iff {name : String} {names : List String} :
    (name :: names).foldlM fs.step place = .ok place' ↔
      ∃ next, fs.step place name = .ok next ∧ names.foldlM fs.step next = .ok place' := by
  rw [List.foldlM_cons]
  cases fs.step place name <;> simp [bind, Except.bind]

theorem foldlM_step_eq_ok {names : List String} (h : names.foldlM fs.step place = .ok place') :
    names.foldl enter place = place' := by
  induction names generalizing place with
  | nil => exact Except.ok.inj h
  | cons name names ih =>
    obtain ⟨next, hstep, h⟩ := foldlM_step_cons_eq_ok_iff.1 h
    rw [List.foldl_cons, (step_eq_ok_iff.1 hstep).2.2]
    exact ih h

/-- No name of a path has the character that no path has. -/
def IsClean (p : Path) : Prop :=
  p.names.any (·.toList.contains '\x00') = false

instance (p : Path) : Decidable (IsClean p) :=
  inferInstanceAs (Decidable (_ = false))

theorem locate_of_isClean (h : IsClean p) :
    fs.locate p = (p.names.foldlM fs.step (fs.start p)).mapError (.refused · p) := by
  rw [locate, show p.names.any (·.toList.contains '\x00') = false from h, if_neg (by simp)]
  cases p.names.foldlM fs.step (fs.start p) <;> rfl

theorem locate_of_not_isClean (h : ¬ IsClean p) : fs.locate p = .error .embeddedNul := by
  rw [locate, if_pos (by simpa [IsClean] using h)]

theorem leads_iff :
    fs.Leads p ↔ IsClean p ∧ p.names.foldlM fs.step (fs.start p) = .ok (fs.goal p) := by
  by_cases hclean : IsClean p
  · rw [Leads, locate_of_isClean hclean]
    cases p.names.foldlM fs.step (fs.start p) <;> simp [hclean]
  · simp [Leads, locate_of_not_isClean hclean, hclean]

theorem locate_eq_ok_iff : fs.locate p = .ok place ↔ fs.Leads p ∧ fs.goal p = place := by
  constructor
  · intro h
    have hclean : IsClean p := by
      refine Decidable.byContradiction fun hclean => ?_
      rw [locate_of_not_isClean hclean] at h
      cases h
    have hgoal : fs.goal p = place := by
      rw [locate_of_isClean hclean] at h
      cases hwalk : p.names.foldlM fs.step (fs.start p) with
      | error reason => simp [hwalk] at h
      | ok last =>
        simp only [hwalk, mapError_ok, Except.ok.injEq] at h
        exact (foldlM_step_eq_ok hwalk).trans h
    exact ⟨by rw [Leads, hgoal, h], hgoal⟩
  · rintro ⟨h, rfl⟩
    exact h

theorem find_eq_ok_iff {e : Entry} :
    fs.find p = .ok e ↔ fs.Leads p ∧ fs.entry (fs.goal p) = some e := by
  unfold find Leads
  cases h : fs.locate p with
  | error e => simp [bind, Except.bind]
  | ok place =>
    obtain ⟨-, rfl⟩ := locate_eq_ok_iff.1 h
    simp only [bind, Except.bind, true_and]
    cases fs.entry (fs.goal p) <;> simp

theorem read_eq_ok_iff {content : List UInt8} :
    fs.read p = .ok content ↔ fs.find p = .ok (.file content) := by
  unfold read
  cases fs.find p with
  | error e => simp [bind, Except.bind]
  | ok e => cases e <;> simp [bind, Except.bind]

theorem write_eq_ok_iff {content : List UInt8} :
    fs.write p content = .ok fs' ↔ fs.Leads p ∧ fs.entry (fs.goal p) ≠ some .directory ∧
      fs.set (fs.goal p) (.file content) = fs' := by
  unfold write Leads
  cases h : fs.locate p with
  | error e => simp [bind, Except.bind]
  | ok place =>
    obtain ⟨-, rfl⟩ := locate_eq_ok_iff.1 h
    simp only [bind, Except.bind, true_and]
    split <;> simp_all

theorem makeDirectory_eq_ok_iff :
    fs.makeDirectory p = .ok fs' ↔ fs.Leads p ∧ fs.entry (fs.goal p) = none ∧
      fs.set (fs.goal p) .directory = fs' := by
  unfold makeDirectory Leads
  cases h : fs.locate p with
  | error e => simp [bind, Except.bind]
  | ok place =>
    obtain ⟨-, rfl⟩ := locate_eq_ok_iff.1 h
    simp only [bind, Except.bind, true_and]
    split <;> simp_all

/-! ### The contents of files -/

/-- The content of the file at a place. -/
def content? (fs : FileSystem) (place : List String) : Option (List UInt8) :=
  match fs.entry place with
  | some (.file content) => some content
  | _ => none

theorem content?_eq_some_iff {content : List UInt8} :
    fs.content? place = some content ↔ fs.entry place = some (.file content) := by
  unfold content?
  split <;> simp_all

theorem content?_congr (h : fs'.entry place = fs.entry place) :
    fs'.content? place = fs.content? place := by
  rw [content?, content?, h]

theorem content?_set (h : place ≠ []) (content : List UInt8) (other : List String) :
    (fs.set place (.file content)).content? other =
      if other = place then some content else fs.content? other := by
  rw [content?, entry_set fs h]
  by_cases ho : other = place
  · rw [if_pos ho, if_pos ho]
  · rw [if_neg ho, if_neg ho]
    rfl

/-! ### What stays -/

/-- Nothing that was there is gone: a directory is still a directory, and a file is still a
    file, though its content may be another one. -/
structure Keeps (fs fs' : FileSystem) : Prop where
  workingDirectory : fs'.workingDirectory = fs.workingDirectory
  directory : ∀ {place}, fs.entry place = some .directory → fs'.entry place = some .directory
  file : ∀ {place}, (fs.content? place).isSome → (fs'.content? place).isSome

theorem Keeps.refl (fs : FileSystem) : fs.Keeps fs :=
  ⟨rfl, id, id⟩

theorem Keeps.trans (h : fs.Keeps fs') (h' : fs'.Keeps fs'') : fs.Keeps fs'' :=
  ⟨h'.workingDirectory.trans h.workingDirectory, h'.directory ∘ h.directory, h'.file ∘ h.file⟩

theorem Keeps.goal (h : fs.Keeps fs') (p : Path) : fs'.goal p = fs.goal p :=
  goal_congr h.workingDirectory p

theorem Keeps.start (h : fs.Keeps fs') (p : Path) : fs'.start p = fs.start p := by
  rw [FileSystem.start, FileSystem.start, h.workingDirectory]

/-- A walk that does not end for lack of a directory goes on as it did. -/
theorem Keeps.foldlM_step (h : fs.Keeps fs') {names : List String}
    {r : Except Reason (List String)} (hwalk : names.foldlM fs.step place = r)
    (hmissing : r ≠ .error .missing) (hfile : r ≠ .error .notDirectory) :
    names.foldlM fs'.step place = r := by
  induction names generalizing place with
  | nil => exact hwalk
  | cons name names ih =>
    rw [List.foldlM_cons] at hwalk ⊢
    have hdirectory : fs.entry place = some .directory := by
      match he : fs.entry place with
      | some .directory => rfl
      | some (.file content) =>
        rw [show fs.step place name = .error .notDirectory by rw [step, he]] at hwalk
        exact absurd hwalk.symm hfile
      | none =>
        rw [show fs.step place name = .error .missing by rw [step, he]] at hwalk
        exact absurd hwalk.symm hmissing
    have hstep : fs'.step place name = fs.step place name := by
      rw [step, step, hdirectory, h.directory hdirectory]
    rw [hstep]
    cases hs : fs.step place name with
    | error reason => simpa [hs, bind, Except.bind] using hwalk
    | ok next =>
      rw [hs] at hwalk
      exact ih hwalk

/-- A path that leads somewhere leads to the same place for as long as nothing is gone. -/
theorem Keeps.leads (h : fs.Keeps fs') (hp : fs.Leads p) : fs'.Leads p := by
  obtain ⟨hclean, hwalk⟩ := leads_iff.1 hp
  refine leads_iff.2 ⟨hclean, ?_⟩
  rw [h.start, h.goal]
  exact h.foldlM_step hwalk (by simp) (by simp)

theorem Keeps.find_directory (h : fs.Keeps fs') (hp : fs.find p = .ok .directory) :
    fs'.find p = .ok .directory := by
  obtain ⟨hleads, hentry⟩ := find_eq_ok_iff.1 hp
  exact find_eq_ok_iff.2 ⟨h.leads hleads, by rw [h.goal]; exact h.directory hentry⟩

/-- What is where is the same, but for the contents of files. -/
structure SameShape (fs fs' : FileSystem) : Prop where
  keeps : fs.Keeps fs'
  kept : fs'.Keeps fs

namespace SameShape

theorem refl (fs : FileSystem) : fs.SameShape fs :=
  ⟨.refl fs, .refl fs⟩

theorem trans (h : fs.SameShape fs') (h' : fs'.SameShape fs'') : fs.SameShape fs'' :=
  ⟨h.keeps.trans h'.keeps, h'.kept.trans h.kept⟩

theorem entry_eq (h : fs.SameShape fs') (hcontent : fs'.content? place = fs.content? place) :
    fs'.entry place = fs.entry place := by
  match he : fs.entry place with
  | some .directory => exact h.keeps.directory he
  | some (.file content) =>
    rw [content?_eq_some_iff.2 he] at hcontent
    exact content?_eq_some_iff.1 hcontent
  | none =>
    rw [show fs.content? place = none by rw [content?, he]] at hcontent
    match he' : fs'.entry place with
    | some .directory => exact absurd (he.symm.trans (h.kept.directory he')) (by simp)
    | some (.file content) => simp [content?, he'] at hcontent
    | none => rfl

end SameShape

/-! ### Looking for files -/

/-- No name in a path is longer than a name may be. -/
def HasShortNames (p : Path) : Prop :=
  ∀ name ∈ p.names, (Text.Utf8.encode name.toList).length ≤ maxNameBytes

instance (p : Path) : Decidable (HasShortNames p) :=
  inferInstanceAs (Decidable (∀ name ∈ p.names, _))

/-- The content of the file that a path leads to, if there is one. -/
def lookUp (fs : FileSystem) (p : Path) : Except Error (Option (List UInt8)) :=
  match fs.find? p with
  | .ok (some (.file content)) => .ok (some content)
  | .ok _ => .ok none
  | .error e => .error e

theorem isFile_eq (fs : FileSystem) (p : Path) : fs.isFile p = (fs.lookUp p).map Option.isSome := by
  rw [isFile, lookUp]
  cases fs.find? p with
  | error e => rfl
  | ok e =>
    match e with
    | none | some .directory | some (.file _) => rfl

theorem find?_eq_ok_some_iff {e : Entry} : fs.find? p = .ok (some e) ↔ fs.find p = .ok e := by
  rw [find?]
  cases fs.find p with
  | ok e => simp
  | error e =>
    match e with
    | .refused .nameTooLong q | .refused .missing q | .refused .exists q |
      .refused .notDirectory q | .refused .isDirectory q | .embeddedNul => simp

theorem lookUp_eq_some_iff {content : List UInt8} :
    fs.lookUp p = .ok (some content) ↔ fs.find p = .ok (.file content) := by
  rw [← find?_eq_ok_some_iff, lookUp]
  cases fs.find? p with
  | error e => simp
  | ok e =>
    match e with
    | none | some .directory | some (.file _) => simp

/-- Looking for a file fails only if the way there has a name that is too long. -/
theorem lookUp_eq_error_iff {e : Error} :
    fs.lookUp p = .error e ↔ fs.locate p = .error e ∧ ∃ q, e = .refused .nameTooLong q := by
  rw [lookUp, find?, find]
  cases fs.locate p with
  | error e' =>
    match e' with
    | .refused .nameTooLong q =>
      simp only [bind, Except.bind, Except.error.injEq]
      exact ⟨fun h => ⟨h, q, h.symm⟩, And.left⟩
    | .refused .missing q | .refused .exists q | .refused .notDirectory q |
      .refused .isDirectory q | .embeddedNul =>
      simp only [bind, Except.bind, reduceCtorEq, Except.error.injEq, false_iff]
      rintro ⟨rfl, q, h⟩
      cases h
  | ok place =>
    simp only [bind, Except.bind, reduceCtorEq, false_and, iff_false]
    match fs.entry place with
    | none | some .directory | some (.file _) => simp

/-- A walk by names that are short enough ends for another reason, if it does. -/
theorem foldlM_step_ne_nameTooLong {names : List String}
    (h : ∀ name ∈ names, (Text.Utf8.encode name.toList).length ≤ maxNameBytes) :
    names.foldlM fs.step place ≠ .error .nameTooLong := by
  induction names generalizing place with
  | nil => simp [pure, Except.pure]
  | cons name names ih =>
    rw [List.foldlM_cons]
    cases hstep : fs.step place name with
    | ok next => exact ih fun other hother => h other (List.mem_cons_of_mem _ hother)
    | error reason =>
      simp only [bind, Except.bind, ne_eq, Except.error.injEq]
      rintro rfl
      have hshort := h name (List.mem_cons_self ..)
      rw [step] at hstep
      grind

/-- Looking for a file by names that are short enough never fails. -/
theorem exists_lookUp (fs : FileSystem) (h : HasShortNames p) :
    ∃ content?, fs.lookUp p = .ok content? := by
  cases hlookUp : fs.lookUp p with
  | ok content? => exact ⟨content?, rfl⟩
  | error e =>
    obtain ⟨hlocate, q, rfl⟩ := lookUp_eq_error_iff.1 hlookUp
    by_cases hclean : IsClean p
    · rw [locate_of_isClean hclean] at hlocate
      cases hwalk : p.names.foldlM fs.step (fs.start p) with
      | ok place => simp [hwalk] at hlocate
      | error reason =>
        simp only [hwalk, mapError_error, Except.error.injEq, Error.refused.injEq] at hlocate
        exact absurd (hlocate.1 ▸ hwalk) (foldlM_step_ne_nameTooLong h)
    · rw [locate_of_not_isClean hclean] at hlocate
      cases hlocate

/-- A file that is found is still found, if maybe with another content, for as long as
    nothing is gone. -/
theorem Keeps.lookUp_some (h : fs.Keeps fs') {content : List UInt8}
    (hp : fs.lookUp p = .ok (some content)) : ∃ content', fs'.lookUp p = .ok (some content') := by
  obtain ⟨hleads, hentry⟩ := find_eq_ok_iff.1 (lookUp_eq_some_iff.1 hp)
  obtain ⟨content', hcontent⟩ := Option.isSome_iff_exists.1 (h.file (by
    rw [content?_eq_some_iff.2 hentry]
    rfl))
  refine ⟨content', lookUp_eq_some_iff.2 (find_eq_ok_iff.2 ⟨h.leads hleads, ?_⟩)⟩
  rw [h.goal]
  exact content?_eq_some_iff.1 hcontent

theorem Keeps.lookUp_error (h : fs.Keeps fs') {e : Error} (hp : fs.lookUp p = .error e) :
    fs'.lookUp p = .error e := by
  obtain ⟨hlocate, q, rfl⟩ := lookUp_eq_error_iff.1 hp
  refine lookUp_eq_error_iff.2 ⟨?_, q, rfl⟩
  by_cases hclean : IsClean p
  · rw [locate_of_isClean hclean] at hlocate ⊢
    cases hwalk : p.names.foldlM fs.step (fs.start p) with
    | ok place => simp [hwalk] at hlocate
    | error reason =>
      simp only [hwalk, mapError_error, Except.error.injEq, Error.refused.injEq] at hlocate
      obtain ⟨rfl, rfl⟩ := hlocate
      rw [h.start, h.foldlM_step hwalk (by simp) (by simp)]
      rfl
  · rw [locate_of_not_isClean hclean] at hlocate
    cases hlocate

end FileSystem

end InstallerKit
