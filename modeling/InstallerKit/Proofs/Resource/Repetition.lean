import InstallerKit.Proofs.Resource.Staging

/-!
# Staging again

What has been staged finds all of its directories and files in place when it is staged again,
and is only written. So what staging does the second time, it does as the first time if it
finds the same to save. It may find something else: what an entry looks for may be what
another one, or the entry itself, has saved the first time.

* `supplies`: what entries have to save;
* `HaveStaged.again`: entries that have the same to save are staged as the first time;
* `HaveStaged.supplies_of_lookUp`: they have if the files that they look for are as they were;
* `HaveStaged.supplies_eq`: what has been saved shows what there was to save.
-/

namespace InstallerKit.Staging

open FileSystem

/-- What entries have to save, if anything, each with the files as those before it leave
    them. -/
def supplies (directory : Path) :
    List Entry → FileSystem → List (Except Fault (Option (List UInt8)))
  | [], _ => []
  | e :: rest, fs => e.arrival directory fs :: supplies directory rest (e.after directory fs)

/-- The files that an item looks for. -/
def Item.lookedUp (dest : Path) : Item → List Path
  | .resource r => r.lookedUp dest
  | .foreign _ => []

/-! ### The same again -/

section Again

variable {directory : Path} {e : Entry} {saved : Bool} {steps : List Step}
  {fs fs' files : FileSystem}

theorem Entry.HasStaged.after_eq (h : e.HasStaged directory fs saved fs') :
    e.after directory fs = fs' := by
  obtain ⟨made, content?, hmade, harrival, -, hreceives⟩ := h
  rw [Entry.after, harrival, hmade]
  cases content? with
  | none => exact hreceives
  | some content => exact hreceives.eq

/-- What an entry finds when it is saved for the second time: the directories above it. -/
theorem Entry.HasStaged.makeDirectories (h : e.HasStaged directory fs saved fs')
    (hkeeps : fs'.Keeps files) :
    files.makeDirectories (e.dest directory).parent = (files, none) := by
  obtain ⟨made, content?, hmade, -, -, hreceives⟩ := h
  exact makeDirectories_of_find
    ((hreceives.keeps.trans hkeeps).find_directory (find_of_makeDirectories hmade))

/-- An entry that finds the same to save is saved again, which adds nothing. -/
theorem Entry.HasStaged.again (h : e.HasStaged directory fs saved fs') (hkeeps : fs'.Keeps files)
    (heq : e.arrival directory files = e.arrival directory fs) :
    e.HasStaged directory files saved (e.after directory files) ∧
      files.SameShape (e.after directory files) ∧
      e.output? directory files = e.output? directory fs := by
  have hgoal := (h.keeps.trans hkeeps).goal (e.dest directory)
  have hmade' := h.makeDirectories hkeeps
  obtain ⟨made, content?, hmade, harrival, hanswer, hreceives⟩ := h
  rw [Entry.output?, Entry.output?, hgoal, heq, Entry.after, hmade', heq, harrival]
  rw [harrival] at heq
  cases content? with
  | none => exact ⟨⟨files, none, hmade', heq, hanswer, rfl⟩, .refl files, rfl⟩
  | some content =>
    obtain ⟨hsaves, hshape⟩ := hreceives.again hkeeps content
    exact ⟨⟨files, some content, hmade', heq, hanswer, hsaves⟩, hshape, rfl⟩

/-- Entries that find the same to save are staged again, which adds nothing. -/
theorem HaveStaged.again (h : HaveStaged directory fs steps fs') (hkeeps : fs'.Keeps files)
    (heq : supplies directory (steps.map Step.entry) files =
      supplies directory (steps.map Step.entry) fs) :
    ∃ files', HaveStaged directory files steps files' ∧ files.SameShape files' := by
  induction h generalizing files with
  | nil fs => exact ⟨files, .nil files, .refl files⟩
  | cons he hrest ih =>
    obtain ⟨heq, hsupplies⟩ := List.cons.inj heq
    obtain ⟨hstaged, hshape, houtput⟩ := he.again (hrest.keeps.trans hkeeps) heq
    rw [he.after_eq] at hsupplies
    obtain ⟨files', hrest', hshape'⟩ := ih (hkeeps.trans hshape.keeps) hsupplies
    exact ⟨files', houtput ▸ .cons hstaged hrest', hshape.trans hshape'⟩

end Again

/-! ### Finding the same again -/

/-- Two stagings of the same entries, the first one from `fs₀` to `fs₁` and the second one from
    `fs₁` on, have come equally far: the first one to `fs`, and the second one to `files`. A
    file has been written by both, or by neither of them. -/
structure Abreast (fs₀ fs₁ fs files : FileSystem) : Prop where
  before : fs₀.Keeps fs
  ahead : fs.Keeps fs₁
  shape : fs₁.SameShape files
  content? : ∀ place, files.content? place = fs.content? place ∨
    files.content? place = fs₁.content? place ∧ fs.content? place = fs₀.content? place

section Abreast

variable {fs₀ fs₁ fs files : FileSystem}

theorem Abreast.start (h : fs₀.Keeps fs₁) : Abreast fs₀ fs₁ fs₀ fs₁ :=
  ⟨.refl fs₀, h, .refl fs₁, fun _ => .inr ⟨rfl, rfl⟩⟩

theorem Abreast.makes (h : Abreast fs₀ fs₁ fs files) {made : FileSystem}
    (hadds : fs.AddsDirectories made) (hahead : made.Keeps fs₁) : Abreast fs₀ fs₁ made files where
  before := h.before.trans hadds.keeps
  ahead := hahead
  shape := h.shape
  content? place := by
    rw [hadds.content?]
    exact h.content? place

/-- The same has been written to the same files. -/
theorem Abreast.writes (h : Abreast fs₀ fs₁ fs files) {fs' files' : FileSystem}
    (hkeeps : fs.Keeps fs') (hahead : fs'.Keeps fs₁) (hshape : files.SameShape files')
    (written : List String → Option (List UInt8))
    (hfs : ∀ place, fs'.content? place = (written place).or (fs.content? place))
    (hfiles : ∀ place, files'.content? place = (written place).or (files.content? place)) :
    Abreast fs₀ fs₁ fs' files' where
  before := h.before.trans hkeeps
  ahead := hahead
  shape := h.shape.trans hshape
  content? place := by
    rw [hfs, hfiles]
    cases written place with
    | none => exact h.content? place
    | some content => exact .inl rfl

/-- A file that is looked for is the same for both if it has not changed from the start to
    the end of the first staging. -/
theorem Abreast.lookUp (h : Abreast fs₀ fs₁ fs files) {p : Path}
    (hp : fs₁.lookUp p = fs₀.lookUp p) : files.lookUp p = fs.lookUp p := by
  have hcontent {fs : FileSystem} {content : List UInt8} (hp : fs.lookUp p = .ok (some content)) :
      fs.content? (fs.goal p) = some content :=
    content?_eq_some_iff.2 (find_eq_ok_iff.1 (lookUp_eq_some_iff.1 hp)).2
  match h₀ : fs₀.lookUp p with
  | .error e =>
    rw [h.before.lookUp_error h₀, h.shape.keeps.lookUp_error (hp.trans h₀)]
  | .ok none =>
    -- What leads nowhere in the end has never led anywhere.
    have hnone {fs : FileSystem} (hkeeps : fs.Keeps fs₁) : fs.lookUp p = .ok none := by
      match hfs : fs.lookUp p with
      | .error e => exact absurd ((hp.trans h₀).symm.trans (hkeeps.lookUp_error hfs)) (by simp)
      | .ok none => rfl
      | .ok (some content) =>
        obtain ⟨content', hcontent'⟩ := hkeeps.lookUp_some hfs
        exact absurd ((hp.trans h₀).symm.trans hcontent') (by simp)
    rw [hnone h.ahead, hnone h.shape.kept]
  | .ok (some content) =>
    obtain ⟨c, hc⟩ := h.before.lookUp_some h₀
    obtain ⟨d, hd⟩ := h.shape.keeps.lookUp_some (hp.trans h₀)
    have hplace := h.content? (files.goal p)
    rw [hcontent hd, h.shape.keeps.goal, h.ahead.goal, hcontent hc] at hplace
    rw [hc, hd]
    rcases hplace with heq | ⟨hd', hc'⟩
    · rw [Option.some.inj heq]
    · rw [← h.ahead.goal, hcontent (hp.trans h₀)] at hd'
      rw [h.before.goal, hcontent h₀] at hc'
      rw [Option.some.inj hc', Option.some.inj hd']

variable {directory : Path} {e : Entry} {saved : Bool} {steps : List Step} {fs' : FileSystem}

theorem Abreast.arrival (h : Abreast fs₀ fs₁ fs files) (he : e.HasStaged directory fs saved fs')
    (hahead : fs'.Keeps fs₁)
    (hlookUp : ∀ p ∈ e.item.lookedUp (e.dest directory), fs₁.lookUp p = fs₀.lookUp p) :
    e.arrival directory files = e.arrival directory fs := by
  have hmade' := he.makeDirectories (hahead.trans h.shape.keeps)
  obtain ⟨made, content?, hmade, harrival, -, hreceives⟩ := he
  have hadds := addsDirectories_makeDirectories hmade
  have habreast := h.makes hadds (hreceives.keeps.trans hahead)
  rw [harrival]
  rw [Entry.arrival, hmade] at harrival
  rw [Entry.arrival, hmade']
  revert harrival hlookUp
  cases e.item with
  | foreign outcome => exact fun _ harrival => harrival
  | resource r =>
    intro hlookUp harrival
    obtain ⟨supply?, hsupply, rfl⟩ := except_map_eq_ok_iff.1 harrival
    have hagain := Resource.supply_of_lookUp (fun p hp => habreast.lookUp (hlookUp p hp)) hsupply
    exact except_map_eq_ok_iff.2 ⟨supply?, hagain, rfl⟩

/-- Entries find the same to save if the files that they look for are as they were. -/
theorem HaveStaged.supplies_of_lookUp (h : HaveStaged directory fs steps fs')
    (habreast : Abreast fs₀ fs₁ fs files) (hahead : fs'.Keeps fs₁)
    (hlookUp : ∀ e ∈ steps.map Step.entry, ∀ p ∈ e.item.lookedUp (e.dest directory),
      fs₁.lookUp p = fs₀.lookUp p) :
    supplies directory (steps.map Step.entry) files =
      supplies directory (steps.map Step.entry) fs := by
  induction h generalizing files with
  | nil fs => rfl
  | @cons fs between fs' e saved steps he hrest ih =>
    rw [List.map_cons, List.forall_mem_cons] at hlookUp
    have hbetween := hrest.keeps.trans hahead
    have harrival := habreast.arrival he hbetween hlookUp.1
    obtain ⟨hstaged, hshape, houtput⟩ := he.again (hbetween.trans habreast.shape.keeps) harrival
    have hnext := habreast.writes he.keeps hbetween hshape _ he.content?
      fun place => houtput ▸ hstaged.content? place
    rw [List.map_cons, supplies, supplies, harrival, he.after_eq, ih hnext hahead hlookUp.2]

end Abreast

/-! ### What has been saved -/

/-- What an entry has had to save, as the files show in the end. -/
def Entry.shown? (directory : Path) (e : Entry) (saved : Bool) (fs : FileSystem) :
    Option (List UInt8) :=
  match e.item with
  | .resource _ => if saved then fs.content? (fs.goal (e.dest directory)) else none
  | .foreign _ => none

section Shown

variable {directory : Path} {e : Entry} {saved : Bool} {steps : List Step}
  {fs fs' : FileSystem}

/-- What an entry has saved is found where its name leads. -/
theorem Entry.HasStaged.arrival_eq (h : e.HasStaged directory fs saved fs') :
    e.arrival directory fs = .ok (e.shown? directory saved fs') := by
  obtain ⟨made, content?, hmade, harrival, hanswer, hreceives⟩ := h
  rw [harrival]
  rw [Entry.arrival, hmade] at harrival
  unfold Entry.shown?
  revert harrival hanswer
  cases e.item with
  | foreign outcome => exact fun harrival _ => harrival.symm
  | resource r =>
    intro _ hanswer
    obtain rfl := Except.ok.inj hanswer
    cases content? with
    | none => rfl
    | some content =>
      have hcontent := hreceives.content? (made.goal (e.dest directory))
      rw [if_pos rfl, ← hreceives.keeps.goal] at hcontent
      rw [hcontent]
      rfl

/-- If no two entries lead to the same file, what they have had to save shows in the end. -/
theorem HaveStaged.supplies_eq (h : HaveStaged directory fs steps fs')
    (hapart : (((steps.map Step.entry).map (Entry.dest directory)).map fs.goal).Nodup) :
    supplies directory (steps.map Step.entry) fs =
      steps.map fun s => .ok (s.entry.shown? directory s.saved fs') := by
  induction h with
  | nil fs => rfl
  | @cons fs between fs' e saved steps he hrest ih =>
    have hgoal : fs.goal = between.goal := funext fun p => (he.keeps.goal p).symm
    rw [List.map_cons, List.map_cons, List.map_cons, List.nodup_cons, hgoal] at hapart
    have hkept : fs'.content? (between.goal (e.dest directory)) =
        between.content? (between.goal (e.dest directory)) := by
      refine Decidable.byContradiction fun hne => ?_
      obtain ⟨s, hs, -, hplace⟩ := hrest.exists_step hne
      rw [hplace] at hapart
      exact hapart.1 (List.mem_map_of_mem (List.mem_map_of_mem (List.mem_map_of_mem hs)))
    rw [List.map_cons, List.map_cons, supplies, he.after_eq, ih hapart.2, he.arrival_eq]
    congr 2
    simp only [Entry.shown?, hrest.keeps.goal, hkept]

end Shown

theorem savedPaths_cons (directory : Path) (s : Step) (steps : List Step) :
    savedPaths directory (s :: steps) =
      if s.saved then s.entry.dest directory :: savedPaths directory steps
      else savedPaths directory steps := by
  unfold savedPaths
  cases h : s.saved <;> simp [h]

theorem mem_of_mem_savedPaths {directory : Path} {steps : List Step} {p : Path}
    (h : p ∈ savedPaths directory steps) :
    p ∈ (steps.map Step.entry).map (Entry.dest directory) := by
  obtain ⟨s, hs, rfl⟩ := List.mem_map.1 h
  exact List.mem_map_of_mem (List.mem_map_of_mem (List.mem_filter.1 hs).1)

/-- Paths that are all different tell which entries count as saved. -/
theorem saved_eq_of_savedPaths {directory : Path} {steps steps' : List Step}
    (hentries : steps.map Step.entry = steps'.map Step.entry)
    (hapart : ((steps.map Step.entry).map (Entry.dest directory)).Nodup)
    (hpaths : savedPaths directory steps = savedPaths directory steps') :
    steps.map (fun s => (s.entry, s.saved)) = steps'.map fun s => (s.entry, s.saved) := by
  induction steps generalizing steps' with
  | nil =>
    obtain rfl := List.map_eq_nil_iff.1 hentries.symm
    rfl
  | cons s steps ih =>
    obtain ⟨s', steps', rfl, hentry, hentries'⟩ := List.map_eq_cons_iff.1 hentries.symm
    rw [List.map_cons, List.map_cons, List.nodup_cons] at hapart
    have hleft : s.entry.dest directory ∉ savedPaths directory steps :=
      fun hmem => hapart.1 (mem_of_mem_savedPaths hmem)
    have hright : s.entry.dest directory ∉ savedPaths directory steps' :=
      fun hmem => hapart.1 (hentries' ▸ mem_of_mem_savedPaths hmem)
    rw [savedPaths_cons, savedPaths_cons, hentry] at hpaths
    rw [List.map_cons, List.map_cons, hentry]
    cases hs : s.saved <;> cases hs' : s'.saved <;>
      simp only [hs, hs', if_true, Bool.false_eq_true, if_false] at hpaths
    · rw [ih hentries'.symm hapart.2 hpaths]
    · rw [hpaths] at hleft
      exact absurd List.mem_cons_self hleft
    · rw [← hpaths] at hright
      exact absurd List.mem_cons_self hright
    · rw [ih hentries'.symm hapart.2 (List.cons.inj hpaths).2]

/-- If no two entries lead to the same file, and if the files and what counts as saved are the
    same after two stagings, there was the same to save. -/
theorem HaveStaged.supplies_eq_of_outcome {directory : Path} {steps steps' : List Step}
    {fs fs' files files' : FileSystem} (h : HaveStaged directory fs steps fs')
    (h' : HaveStaged directory files steps' files')
    (hapart : (((steps.map Step.entry).map (Entry.dest directory)).map fs.goal).Nodup)
    (hkeeps : fs'.Keeps files) (hentries : steps.map Step.entry = steps'.map Step.entry)
    (hpaths : savedPaths directory steps = savedPaths directory steps')
    (hentry : ∀ place, files'.entry place = fs'.entry place) :
    supplies directory (steps'.map Step.entry) files =
      supplies directory (steps.map Step.entry) fs := by
  have hgoal : files.goal = fs.goal := funext (h.keeps.trans hkeeps).goal
  have hshown (e : Entry) (saved : Bool) :
      e.shown? directory saved files' = e.shown? directory saved fs' := by
    rw [Entry.shown?, Entry.shown?, (hkeeps.trans h'.keeps).goal, content?_congr (hentry _)]
  have hsaved := saved_eq_of_savedPaths hentries
    (List.Pairwise.of_map _ (fun _ _ => mt (congrArg fs.goal)) hapart) hpaths
  have hmap := congrArg (List.map fun s : Entry × Bool =>
    (.ok (s.1.shown? directory s.2 fs') : Except Fault _)) hsaved
  rw [List.map_map, List.map_map] at hmap
  rw [h.supplies_eq hapart, h'.supplies_eq (by rwa [← hentries, hgoal])]
  simp only [hshown]
  exact hmap.symm

end InstallerKit.Staging
