import InstallerKit.Proofs.Resource.Supply
import InstallerKit.Resource.Staging

/-!
# What staging does

Staging goes through the entries in order, and each of them finds the files as those before
it have left them: it may overwrite what one of them has saved, or save it again under
another name. Whatever the entries are, a file that several of them save ends with the
content of the last one; and if one of them fails, the files are as those before it have left
them, and those after it are not asked.

* `Entry.HasStaged`, `HaveStaged`: what entries do that do not fail;
* `HaveStaged.content?`: the contents of files afterwards;
* `savingKinds`: the faults that staging makes others of, which name the target;
* `Passes`: entries are saved, one after the other;
* `materialize_run`: staging, up to the end or to the first entry that fails;
* `hasEffect_materialize`: staging that does not fail does what its entries do.
-/

namespace InstallerKit.Staging

open InstallerKit.Action FileSystem

/-! ### One entry -/

/-- The content that an item has to save under a path, if any. -/
def Item.arrival (fs : FileSystem) (dest : Path) : Item → Except Fault (Option (List UInt8))
  | .resource r => (r.supply fs dest).map (Option.map Resource.Supply.content)
  | .foreign _ => .ok none

/-- Whether an item counts as saved: one of the library's does if it had a content to save. -/
def Item.answer (content? : Option (List UInt8)) : Item → Except Fault Bool
  | .resource _ => .ok content?.isSome
  | .foreign outcome => outcome

namespace Entry

/-- Where an entry is saved. -/
def dest (directory : Path) (e : Entry) : Path :=
  directory.child e.target

/-- The content that an entry has to save, if any, once the directories are there. -/
def arrival (directory : Path) (e : Entry) (fs : FileSystem) :
    Except Fault (Option (List UInt8)) :=
  e.item.arrival (fs.makeDirectories (e.dest directory).parent).1 (e.dest directory)

/-- The place that an entry writes at, and what it writes. -/
def output? (directory : Path) (e : Entry) (fs : FileSystem) :
    Option (List String × List UInt8) :=
  match e.arrival directory fs with
  | .ok (some content) => some (fs.goal (e.dest directory), content)
  | _ => none

/-- What an entry makes of the files. -/
def after (directory : Path) (e : Entry) (fs : FileSystem) : FileSystem :=
  let made := (fs.makeDirectories (e.dest directory).parent).1
  match e.arrival directory fs with
  | .ok (some content) => made.withFile (e.dest directory) content
  | _ => made

/-- Saves an entry, and leaves its faults as they are. -/
def attempt (directory : Path) (e : Entry) : Action Bool := do
  makeDirectories (e.dest directory).parent
  e.item.save (e.dest directory)

/-- An entry has been saved: the directories above it have been made, and what there was to
    save has been. -/
structure HasStaged (directory : Path) (e : Entry) (fs : FileSystem) (saved : Bool)
    (fs' : FileSystem) : Prop where
  intro ::
  exists_made : ∃ made content?, fs.makeDirectories (e.dest directory).parent = (made, none) ∧
    e.arrival directory fs = .ok content? ∧ e.item.answer content? = .ok saved ∧
    made.Receives (e.dest directory) content? fs'

end Entry

theorem hasEffect_itemSave (item : Item) (dest : Path) :
    HasEffect (item.save dest) fun fs saved fs' =>
      ∃ content?, item.arrival fs dest = .ok content? ∧ item.answer content? = .ok saved ∧
        fs.Receives dest content? fs' := by
  cases item with
  | resource r =>
    refine (hasEffect_bind (r.hasEffect_save dest) fun source =>
      hasEffect_pure source.isSome).congr fun fs saved fs' => ?_
    simp only [Item.arrival, Item.answer, except_map_eq_ok_iff]
    constructor
    · rintro ⟨_, _, ⟨hsupply, rfl, rfl⟩ | ⟨s, arrived, hsupply, rfl, hsaves⟩, rfl, rfl⟩
      · exact ⟨none, ⟨none, hsupply, rfl⟩, rfl, rfl⟩
      · exact ⟨some arrived, ⟨_, hsupply, rfl⟩, rfl, hsaves⟩
    · rintro ⟨_, ⟨supply?, hsupply, rfl⟩, hsaved, hreceives⟩
      obtain rfl := Except.ok.inj hsaved
      cases supply? with
      | none => exact ⟨none, fs, .inl ⟨hsupply, rfl, rfl⟩, rfl, hreceives⟩
      | some v => exact ⟨some v.source, fs', .inr ⟨_, _, hsupply, rfl, hreceives⟩, rfl, rfl⟩
  | foreign outcome =>
    cases outcome with
    | ok saved =>
      refine (hasEffect_pure saved).congr fun fs saved fs' => ?_
      simp [Item.arrival, Item.answer, Receives]
    | error f =>
      refine (hasEffect_throw f).congr fun fs saved fs' => ?_
      simp [Item.answer]

theorem hasEffect_attempt (directory : Path) (e : Entry) :
    HasEffect (e.attempt directory) (e.HasStaged directory) := by
  refine (hasEffect_bind (hasEffect_makeDirectories _) fun _ =>
    hasEffect_itemSave e.item _).congr fun fs saved fs' => ?_
  constructor
  · rintro ⟨-, made, hmade, content?, harrival, hanswer, hreceives⟩
    refine ⟨made, content?, hmade, ?_, hanswer, hreceives⟩
    rw [Entry.arrival, hmade]
    exact harrival
  · rintro ⟨made, content?, hmade, harrival, hanswer, hreceives⟩
    rw [Entry.arrival, hmade] at harrival
    exact ⟨(), made, hmade, content?, harrival, hanswer, hreceives⟩

theorem failsCleanly_attempt (directory : Path) (e : Entry) :
    FailsCleanly (e.attempt directory) := by
  refine failsCleanly_bind (failsCleanly_makeDirectories _) (hasEffect_makeDirectories _)
    (fun _ _ _ => addsDirectories_makeDirectories) fun _ => ?_
  match e.item with
  | .resource r => exact failsCleanly_bind_pure (r.failsCleanly_save _) Option.isSome
  | .foreign (.ok saved) => exact failsCleanly_pure saved
  | .foreign (.error f) => exact failsCleanly_throw f

namespace Entry.HasStaged

variable {directory : Path} {e : Entry} {fs fs' : FileSystem} {saved : Bool}

theorem keeps (h : e.HasStaged directory fs saved fs') : fs.Keeps fs' := by
  obtain ⟨made, content?, hmade, -, -, hreceives⟩ := h
  have hadds := addsDirectories_makeDirectories hmade
  exact hadds.keeps.trans hreceives.keeps

/-- An entry changes no file but the one that it writes. -/
theorem content? (h : e.HasStaged directory fs saved fs') (place : List String) :
    fs'.content? place =
      ((e.output? directory fs).toList.lookup place).or (fs.content? place) := by
  obtain ⟨made, content?, hmade, harrival, -, hreceives⟩ := h
  have hadds := addsDirectories_makeDirectories hmade
  rw [Entry.output?, harrival]
  cases content? with
  | none =>
    obtain rfl := hreceives
    exact hadds.content? place
  | some content =>
    rw [hreceives.content?, hadds.content?, hadds.keeps.goal]
    by_cases hplace : place = fs.goal (e.dest directory)
    · simp [hplace]
    · simp [hplace, List.lookup_cons, beq_false_of_ne hplace]

/-- An entry that has changed a file counts as saved, and its name leads to the file. -/
theorem saved_of_content?_ne (h : e.HasStaged directory fs saved fs') {place : List String}
    (hne : fs'.content? place ≠ fs.content? place) :
    saved = true ∧ place = fs.goal (e.dest directory) := by
  obtain ⟨made, content?, hmade, harrival, hanswer, hreceives⟩ := h
  have hadds := addsDirectories_makeDirectories hmade
  cases content? with
  | none => exact absurd (hreceives ▸ hadds.content? place) hne
  | some content =>
    rw [hreceives.content?, hadds.content?, hadds.keeps.goal] at hne
    refine ⟨?_, Decidable.byContradiction fun hplace => hne (if_neg hplace)⟩
    -- Only a resource of the library's has a content to save.
    rw [Entry.arrival] at harrival
    revert harrival hanswer
    cases e.item with
    | resource r => exact fun _ hanswer => (Except.ok.inj hanswer).symm
    | foreign outcome => exact fun harrival => nomatch harrival

end Entry.HasStaged

/-! ### Entries in order -/

/-- An entry that has been saved. -/
structure Step where
  entry : Entry
  /-- Whether it counts as saved. -/
  saved : Bool
  /-- The place that it has written at, and what it has written. -/
  output? : Option (List String × List UInt8)

/-- Entries have been saved, each with the files as those before it have left them. -/
inductive HaveStaged (directory : Path) : FileSystem → List Step → FileSystem → Prop
  | nil (fs : FileSystem) : HaveStaged directory fs [] fs
  | cons {fs made fs' : FileSystem} {e : Entry} {saved : Bool} {steps : List Step}
      (h : e.HasStaged directory fs saved made) (hrest : HaveStaged directory made steps fs') :
      HaveStaged directory fs (⟨e, saved, e.output? directory fs⟩ :: steps) fs'

namespace HaveStaged

variable {directory : Path} {fs fs' : FileSystem} {steps : List Step}

theorem keeps (h : HaveStaged directory fs steps fs') : fs.Keeps fs' := by
  induction h with
  | nil fs => exact .refl fs
  | cons he _ ih => exact he.keeps.trans ih

/-- Every file ends with the last content that has been written to it, or else with the one
    that it had. -/
theorem content? (h : HaveStaged directory fs steps fs') (place : List String) :
    fs'.content? place =
      ((steps.filterMap Step.output?).reverse.lookup place).or (fs.content? place) := by
  induction h with
  | nil fs => rfl
  | @cons fs made fs' e saved steps he _ ih =>
    rw [ih, he.content?]
    cases e.output? directory fs with
    | none => simp
    | some output => simp [List.lookup_append, Option.or_assoc]

/-- The files that have changed are those that the names of saved entries lead to. -/
theorem exists_step (h : HaveStaged directory fs steps fs') {place : List String}
    (hne : fs'.content? place ≠ fs.content? place) :
    ∃ s ∈ steps, s.saved = true ∧ place = fs.goal (s.entry.dest directory) := by
  induction h with
  | nil fs => exact absurd rfl hne
  | @cons fs made fs' e saved steps he _ ih =>
    by_cases hlater : fs'.content? place = made.content? place
    · exact ⟨_, List.mem_cons_self, he.saved_of_content?_ne (hlater ▸ hne)⟩
    · obtain ⟨s, hs, hsaved, hplace⟩ := ih hlater
      exact ⟨s, List.mem_cons_of_mem _ hs, hsaved, hplace.trans (he.keeps.goal _)⟩

end HaveStaged

/-- The paths of the entries that count as saved. -/
def savedPaths (directory : Path) (steps : List Step) : List Path :=
  (steps.filter Step.saved).map fun s => s.entry.dest directory

/-! ### Faults of saving -/

/-- The kinds of the faults that are of saving: those of the system, and that of a content that
    is no text. -/
def savingKinds : List Fault.Kind :=
  [.resource, .system, .permission, .missingFile, .existingFile, .notDirectory, .isDirectory,
    .decoding]

theorem isSavingFault_iff {f : Fault} : isSavingFault f = true ↔ f.kind ∈ savingKinds := by
  rw [isSavingFault]
  cases f.kind <;> decide

section Wrap

variable {f : Fault} (target : String) (dest : Path)

/-- A fault of saving becomes the cause, with all of its history, of one that names the target. -/
theorem wrap_of_mem (h : f.kind ∈ savingKinds) :
    let g := wrap target dest f
    g.kind = .resource ∧
    g.problem = .unsaved target ("Failed to save resource '" ++ target ++ "' to " ++ dest.text ++
      ": " ++ f.message) ∧
    g.cause? = some f.problem ∧ g.node.cause = some f.head ∧ f.nodes <+: g.nodes := by
  rw [wrap, if_pos (isSavingFault_iff.2 h)]
  refine ⟨?_, Fault.problem_causedBy _ _, Fault.cause?_causedBy _ _, ?_, List.prefix_append _ _⟩
  · rw [Fault.kind, Fault.problem_causedBy]
    rfl
  · rw [Fault.node_causedBy]

theorem wrap_of_not_mem (h : f.kind ∉ savingKinds) : wrap target dest f = f :=
  if_neg (mt isSavingFault_iff.1 h)

end Wrap

section Entry

variable {directory : Path} {e : Entry} {σ σ' : Session}

theorem save_of_attempt_ok {saved : Bool} (h : e.attempt directory σ = .ok saved σ') :
    e.save (directory.child e.target) σ = .ok saved σ' :=
  tryCatch_of_ok (x := e.attempt directory) h _

theorem save_of_attempt_error {f : Fault} (h : e.attempt directory σ = .error f σ') :
    e.save (directory.child e.target) σ = .error (wrap e.target (e.dest directory) f) σ' :=
  tryCatch_of_error (x := e.attempt directory) h _

end Entry

/-- Entries are saved, one after the other, and none of them fails. -/
inductive Passes (directory : Path) : Session → List Step → Session → Prop
  | nil (σ : Session) : Passes directory σ [] σ
  | cons {σ σ₁ σ₂ : Session} {e : Entry} {saved : Bool} {steps : List Step}
      (h : e.attempt directory σ = .ok saved σ₁) (hrest : Passes directory σ₁ steps σ₂) :
      Passes directory σ (⟨e, saved, e.output? directory σ.files⟩ :: steps) σ₂

section Passes

variable {directory : Path} {σ σ' : Session} {steps : List Step}

theorem Passes.haveStaged (h : Passes directory σ steps σ') :
    HaveStaged directory σ.files steps σ'.files := by
  induction h with
  | nil σ => exact .nil σ.files
  | cons he _ ih => exact .cons ((hasEffect_attempt _ _).of_ok he) ih

theorem HaveStaged.exists_passes {fs fs' : FileSystem} (h : HaveStaged directory fs steps fs')
    (hfs : σ.files = fs) : ∃ σ', Passes directory σ steps σ' ∧ σ'.files = fs' := by
  induction h generalizing σ with
  | nil fs => exact ⟨σ, .nil σ, hfs⟩
  | cons he _ ih =>
    subst hfs
    obtain ⟨σ₁, hattempt, hfiles⟩ := (hasEffect_attempt _ _).exists_ok he
    obtain ⟨σ', hpasses, hfiles'⟩ := ih hfiles
    exact ⟨σ', .cons hattempt hpasses, hfiles'⟩

/-- Staging saves its entries one after the other. -/
theorem Passes.materialize_append (h : Passes directory σ steps σ') (rest : List Entry) :
    materialize directory (steps.map Step.entry ++ rest) σ =
      (do return savedPaths directory steps ++ (← materialize directory rest)) σ' := by
  induction h with
  | nil σ =>
    rw [List.map_nil, List.nil_append]
    exact (congrFun (bind_pure _) σ).symm
  | @cons σ σ₁ σ₂ e saved steps he _ ih =>
    refine (bind_of_ok (save_of_attempt_ok he) _).trans ?_
    refine (bind_of_eq ih _).trans ?_
    rw [bind_assoc]
    refine congrFun (bind_congr fun others => ?_) σ₂
    rw [pure_bind]
    cases saved <;> rfl

/-- Entries are saved one after the other, up to the end or to the first one that fails. -/
theorem exists_passes (directory : Path) (entries : List Entry) (σ : Session) :
    ∃ steps σ₁, Passes directory σ steps σ₁ ∧
      (entries = steps.map Step.entry ∨ ∃ e after f σ₂,
        entries = steps.map Step.entry ++ e :: after ∧ e.attempt directory σ₁ = .error f σ₂) := by
  induction entries generalizing σ with
  | nil => exact ⟨[], σ, .nil σ, .inl rfl⟩
  | cons e entries ih =>
    cases he : e.attempt directory σ with
    | error f σ₂ => exact ⟨[], σ, .nil σ, .inr ⟨e, entries, f, σ₂, rfl, he⟩⟩
    | ok saved σ₁ =>
      obtain ⟨steps, σ₂, hpasses, hentries⟩ := ih σ₁
      refine ⟨_, σ₂, .cons he hpasses, ?_⟩
      rcases hentries with rfl | ⟨e', after, f, σ₃, rfl, hf⟩
      · exact .inl rfl
      · exact .inr ⟨e', after, f, σ₃, rfl, hf⟩

theorem Passes.materialize_ok (h : Passes directory σ steps σ') :
    materialize directory (steps.map Step.entry) σ = .ok (savedPaths directory steps) σ' := by
  have hrun := h.materialize_append []
  rw [List.append_nil] at hrun
  rw [hrun]
  exact congrArg (EStateM.Result.ok · σ') (List.append_nil _)

theorem Passes.materialize_error (h : Passes directory σ steps σ') {e : Entry} {f : Fault}
    {σ₂ : Session} (he : e.attempt directory σ' = .error f σ₂) (others : List Entry) :
    materialize directory (steps.map Step.entry ++ e :: others) σ =
      .error (wrap e.target (e.dest directory) f) σ₂ := by
  rw [h.materialize_append]
  exact bind_of_error (bind_of_error (save_of_attempt_error he) _) _

theorem hasEffect_materialize (directory : Path) (entries : List Entry) :
    HasEffect (materialize directory entries) fun fs paths fs' =>
      ∃ steps, HaveStaged directory fs steps fs' ∧ steps.map Step.entry = entries ∧
        savedPaths directory steps = paths := by
  intro σ paths fs'
  constructor
  · rintro ⟨σ', h, rfl⟩
    obtain ⟨steps, σ₁, hpasses, rfl | ⟨e, after, f, σ₂, rfl, he⟩⟩ :=
      exists_passes directory entries σ
    · rw [hpasses.materialize_ok] at h
      cases h
      exact ⟨steps, hpasses.haveStaged, rfl, rfl⟩
    · rw [hpasses.materialize_error he] at h
      cases h
  · rintro ⟨steps, hstaged, rfl, rfl⟩
    obtain ⟨σ', hpasses, hfiles⟩ := hstaged.exists_passes rfl
    exact ⟨σ', hpasses.materialize_ok, hfiles⟩

/-- Entries are saved one after the other, and those that count as saved are answered, in
    order; a file that several of them have written ends with the content of the last one.
    The first entry that fails ends the staging, whatever comes after it, and the files are as
    the entries before it alone leave them, but for directories that it has added. A fault of
    saving is passed on as the cause of one that names the target, and has all of its history
    then; any other is passed on as it is. -/
theorem materialize_run (directory : Path) (entries : List Entry) (σ : Session) :
    ∃ steps σ₁, Passes directory σ steps σ₁ ∧
      materialize directory (steps.map Step.entry) σ = .ok (savedPaths directory steps) σ₁ ∧
      (∀ place, σ₁.files.content? place =
        ((steps.filterMap Step.output?).reverse.lookup place).or (σ.files.content? place)) ∧
      (entries = steps.map Step.entry ∨
        ∃ e after f g σ₂, entries = steps.map Step.entry ++ e :: after ∧
          e.attempt directory σ₁ = .error f σ₂ ∧
          (∀ others,
            materialize directory (steps.map Step.entry ++ e :: others) σ = .error g σ₂) ∧
          σ₁.files.AddsDirectories σ₂.files ∧
          (f.kind ∈ savingKinds → g.kind = .resource ∧
            g.problem = .unsaved e.target ("Failed to save resource '" ++ e.target ++ "' to " ++
              (directory.child e.target).text ++ ": " ++ f.message) ∧
            g.cause? = some f.problem ∧ g.node.cause = some f.head ∧ f.nodes <+: g.nodes) ∧
          (f.kind ∉ savingKinds → g = f)) := by
  obtain ⟨steps, σ₁, hpasses, hentries⟩ := exists_passes directory entries σ
  refine ⟨steps, σ₁, hpasses, hpasses.materialize_ok, hpasses.haveStaged.content?, ?_⟩
  rcases hentries with rfl | ⟨e, after, f, σ₂, rfl, he⟩
  · exact .inl rfl
  · refine .inr ⟨e, after, f, wrap e.target (e.dest directory) f, σ₂, rfl, he,
      hpasses.materialize_error he, failsCleanly_attempt directory e σ₁ f σ₂ he, ?_, ?_⟩
    · exact wrap_of_mem e.target (e.dest directory)
    · exact wrap_of_not_mem e.target (e.dest directory)

/-- Staging does not fail, and what it leaves is as asked for. -/
def yields (directory : Path) (entries : List Entry) (σ : Session) (p : FileSystem → Bool) : Bool :=
  match materialize directory entries σ with
  | .ok _ σ' => p σ'.files
  | .error _ _ => false

/-- The first two entries write the same file, and the third one cannot be saved. -/
theorem materialize_run_of_locked_entry :
    let text (s : String) : Item :=
      .resource { Resource.empty with content := some (.bytes (Text.Utf8.encode s.toList)) }
    let f : Fault := .of (.reported .permission "locked")
    let directory : Path := .ofString "out"
    let entries : List Entry := [⟨text "a", "x.txt"⟩, ⟨text "b", "./x.txt"⟩,
      ⟨.foreign (.error f), "y.txt"⟩, ⟨text "c", "x.txt"⟩]
    let σ : Session := ⟨.withDirectory ["work"], [], []⟩
    f.kind ∈ savingKinds ∧ ∃ g σ', materialize directory entries σ = .error g σ' ∧
      g.kind = .resource ∧
      g.problem = .unsaved "y.txt" "Failed to save resource 'y.txt' to out/y.txt: locked" ∧
      g.cause? = some f.problem ∧
      σ'.files.content? ["work", "out", "x.txt"] = some (Text.Utf8.encode "b".toList) := by
  intro text f directory entries σ
  have hkind : f.kind ∈ savingKinds := by decide
  have hyields : ∀ n < 5, yields directory (entries.take n) σ (fun _ => true) = decide (n < 3) := by
    decide +kernel
  have hfirst : yields directory (entries.take 2) σ (fun fs =>
      (fs.makeDirectories (directory.child "y.txt").parent).2.isNone &&
        fs.content? ["work", "out", "x.txt"] == some (Text.Utf8.encode "b".toList)) = true := by
    decide +kernel
  obtain ⟨steps, σ₁, -, hok, -, hend⟩ := materialize_run directory entries σ
  rcases hend with hend | ⟨e, after, f', g, σ₂, hentries, hattempt, hrun, hadds, hsaving, -⟩
  · have hall := hyields 4 (by decide)
    rw [show entries.take 4 = steps.map Step.entry from hend, yields, hok] at hall
    cases hall
  have hlength : steps.length = 2 := by
    have hlengths := congrArg List.length hentries
    simp only [entries, List.length_append, List.length_map, List.length_cons,
      List.length_nil] at hlengths
    have hbefore := hyields steps.length (by omega)
    have hwith := hyields (steps.length + 1) (by omega)
    rw [hentries, List.take_left' (List.length_map _), yields, hok] at hbefore
    rw [hentries, ← List.singleton_append, ← List.append_assoc, List.take_left' (by simp), yields,
      hrun []] at hwith
    have hthrough : steps.length < 3 := of_decide_eq_true hbefore.symm
    have hstop : ¬ steps.length + 1 < 3 := of_decide_eq_false hwith.symm
    omega
  obtain ⟨hsteps, hlast⟩ : steps.map Step.entry = entries.take 2 ∧ e :: after = entries.drop 2 := by
    refine List.append_inj ?_ (by rw [List.length_map, hlength]; rfl)
    rw [List.take_append_drop, hentries]
  obtain ⟨rfl, -⟩ := List.cons.inj hlast
  rw [← hsteps, yields, hok, Bool.and_eq_true, beq_iff_eq, Option.isNone_iff_eq_none] at hfirst
  -- The directory is there already, so the fault is the entry's own.
  have hmade : σ₁.files.makeDirectories (directory.child "y.txt").parent = (_, none) :=
    Prod.ext rfl hfirst.1
  obtain rfl : f' = f := by
    cases hattempt.symm.trans (bind_of_ok (makeDirectories_of_none hmade) _)
    rfl
  obtain ⟨hgkind, hproblem, hcause, -⟩ := hsaving hkind
  have hmessage : "Failed to save resource '" ++ "y.txt" ++ "' to " ++
      (directory.child "y.txt").text ++ ": " ++ f.message =
        "Failed to save resource 'y.txt' to out/y.txt: locked" := by
    decide +kernel
  refine ⟨hkind, g, σ₂, hentries ▸ hrun after, hgkind, ?_, hcause, ?_⟩
  · rw [hproblem, hmessage]
  · rw [hadds.content?, hfirst.2]

end Passes

end InstallerKit.Staging
