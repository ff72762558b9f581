import InstallerKit.Fragment.Builder
import InstallerKit.Proofs.Effect
import InstallerKit.Proofs.Fragment.Failure

/-!
# The working directory

Only a path that does not start at the root depends on the working directory. All others lead
to the same places from everywhere, so whatever is asked about them is answered alike, and
whatever is done with them makes the same changes.

So an action that only deals with absolute paths does the same in every working directory: it
answers the same or fails with the same fault, tells the same, and leaves the same files. That
is so for the few actions that touch the file system, and for all that are put together from
them, up to a builder whose paths are all absolute.

* `FileSystem.seenFrom`: a file system with another working directory;
* `locate_seenFrom`: the place that an absolute path leads to;
* `write_seenFrom`, `makeDirectories_seenFrom`: changes at absolute paths;
* `Action.IsUniform`: an action does the same in every working directory;
* `Action.IsUniform.bind`, `Action.IsUniform.tryCatch`: so do actions that are put together;
* `Fragment.Builder.IsAbsolute.isUniform_build`: so does a build.
-/

namespace InstallerKit

namespace Path

variable {p q : Path}

theorem isAbsolute_join (h : p.isAbsolute = true) (q : Path) : (p.join q).isAbsolute = true := by
  rw [join]
  split
  · assumption
  · exact h

theorem isAbsolute_child (h : p.isAbsolute = true) (s : String) :
    (p.child s).isAbsolute = true :=
  isAbsolute_join h (ofString s)

theorem isAbsolute_parent (h : p.isAbsolute = true) : p.parent.isAbsolute = true :=
  h

end Path

namespace FileSystem

/-- The file system with another working directory. -/
def seenFrom (place : List String) (fs : FileSystem) : FileSystem :=
  { fs with workingDirectory := place }

theorem entry_seenFrom (place : List String) (fs : FileSystem) (other : List String) :
    (fs.seenFrom place).entry other = fs.entry other :=
  rfl

variable (place : List String) (fs : FileSystem) {p : Path} (hp : p.isAbsolute = true)
include hp

theorem start_seenFrom : (fs.seenFrom place).start p = fs.start p := by
  rw [start, start, if_pos hp, if_pos hp]

theorem locate_seenFrom : (fs.seenFrom place).locate p = fs.locate p := by
  rw [locate, locate, start_seenFrom place fs hp]
  rfl

theorem resolve_seenFrom : (fs.seenFrom place).resolve p = fs.resolve p := by
  rw [resolve, resolve, start_seenFrom place fs hp]

theorem find_seenFrom : (fs.seenFrom place).find p = fs.find p := by
  rw [find, find, locate_seenFrom place fs hp]
  rfl

theorem find?_seenFrom : (fs.seenFrom place).find? p = fs.find? p := by
  rw [find?, find?, find_seenFrom place fs hp]

theorem isFile_seenFrom : (fs.seenFrom place).isFile p = fs.isFile p := by
  rw [isFile, isFile, find?_seenFrom place fs hp]

theorem isDirectory_seenFrom : (fs.seenFrom place).isDirectory p = fs.isDirectory p := by
  rw [isDirectory, isDirectory, find?_seenFrom place fs hp]

theorem read_seenFrom : (fs.seenFrom place).read p = fs.read p := by
  rw [read, read, find_seenFrom place fs hp]

theorem write_seenFrom (content : List UInt8) :
    (fs.seenFrom place).write p content = (fs.write p content).map (seenFrom place) := by
  rw [write, write, locate_seenFrom place fs hp]
  cases fs.locate p with
  | error e => rfl
  | ok goal =>
    simp only [bind, Except.bind, entry_seenFrom]
    match fs.entry goal with
    | none | some .directory | some (.file _) => rfl

theorem makeDirectory_seenFrom :
    (fs.seenFrom place).makeDirectory p = (fs.makeDirectory p).map (seenFrom place) := by
  rw [makeDirectory, makeDirectory, locate_seenFrom place fs hp]
  cases fs.locate p with
  | error e => rfl
  | ok goal =>
    simp only [bind, Except.bind, entry_seenFrom]
    cases fs.entry goal <;> rfl

theorem ensureDirectory_seenFrom (during : List Error) :
    (fs.seenFrom place).ensureDirectory p during =
      (fs.ensureDirectory p during).map (seenFrom place) id := by
  rw [ensureDirectory, ensureDirectory, makeDirectory_seenFrom place fs hp,
    isDirectory_seenFrom place fs hp]
  cases fs.makeDirectory p with
  | ok made => rfl
  | error e =>
    cases e with
    | embeddedNul => rfl
    | refused reason q =>
      cases reason with
      | missing => rfl
      | _ =>
        dsimp only [Except.map]
        split <;> rfl

theorem makeDirectoriesFrom_seenFrom (during : List Error) (above : Nat) :
    (fs.seenFrom place).makeDirectoriesFrom p during above =
      (fs.makeDirectoriesFrom p during above).map (seenFrom place) id := by
  induction above generalizing p during with
  | zero => exact ensureDirectory_seenFrom place fs hp during
  | succ above ih =>
    rw [makeDirectoriesFrom, makeDirectoriesFrom, makeDirectory_seenFrom place fs hp,
      ensureDirectory_seenFrom place fs hp]
    cases fs.makeDirectory p with
    | ok made => rfl
    | error e =>
      cases e with
      | embeddedNul => rfl
      | refused reason q =>
        cases reason with
        | missing =>
          dsimp only [Except.map]
          rw [ih (Path.isAbsolute_parent hp)]
          cases fs.makeDirectoriesFrom p.parent (.refused .missing q :: during) above with
          | mk made failure =>
            cases failure with
            | none => exact ensureDirectory_seenFrom place made hp _
            | some f => rfl
        | _ => rfl

theorem makeDirectories_seenFrom :
    (fs.seenFrom place).makeDirectories p = (fs.makeDirectories p).map (seenFrom place) id :=
  makeDirectoriesFrom_seenFrom place fs hp [] p.names.length

end FileSystem

/-! ### Actions -/

/-- The session in another working directory. -/
def Session.seenFrom (place : List String) (σ : Session) : Session :=
  { σ with files := σ.files.seenFrom place }

namespace Action

variable {α β : Type}

/-- What comes of an action, in another working directory. -/
def seenFrom (place : List String) :
    EStateM.Result Fault Session α → EStateM.Result Fault Session α
  | .ok a σ => .ok a (σ.seenFrom place)
  | .error f σ => .error f (σ.seenFrom place)

/-- An action does the same in every working directory. -/
def IsUniform (x : Action α) : Prop :=
  ∀ place σ, x (σ.seenFrom place) = seenFrom place (x σ)

/-- What comes next only has to do the same after the answers that there can be. -/
theorem IsUniform.bind_answer {x : Action α} {f : α → Action β} (hx : IsUniform x)
    (hf : ∀ σ a σ', x σ = .ok a σ' → IsUniform (f a)) : IsUniform (x >>= f) := by
  intro place σ
  have hfirst := hx place σ
  cases h : x σ with
  | ok a σ₁ =>
    rw [h] at hfirst
    rw [bind_of_ok h, bind_of_ok hfirst]
    exact hf σ a σ₁ h place σ₁
  | error e σ₁ =>
    rw [h] at hfirst
    rw [bind_of_error h, bind_of_error hfirst]
    rfl

theorem IsUniform.bind {x : Action α} {f : α → Action β} (hx : IsUniform x)
    (hf : ∀ a, IsUniform (f a)) : IsUniform (x >>= f) :=
  hx.bind_answer fun _ a _ _ => hf a

theorem IsUniform.tryCatch {x : Action α} {handler : Fault → Action α} (hx : IsUniform x)
    (hhandler : ∀ f, IsUniform (handler f)) : IsUniform (tryCatch x handler) := by
  intro place σ
  have hfirst := hx place σ
  cases h : x σ with
  | ok a σ₁ =>
    rw [h] at hfirst
    rw [tryCatch_of_ok h, tryCatch_of_ok hfirst]
    rfl
  | error e σ₁ =>
    rw [h] at hfirst
    rw [tryCatch_of_error h, tryCatch_of_error hfirst]
    exact hhandler e place σ₁

theorem isUniform_pure (a : α) : IsUniform (pure a) :=
  fun _ _ => rfl

theorem isUniform_throw (f : Fault) : IsUniform (throw f : Action α) :=
  fun _ _ => rfl

theorem isUniform_log (level : Level) (text : String) : IsUniform (log level text) :=
  fun _ _ => rfl

theorem isUniform_note (e : Event) : IsUniform (note e) :=
  fun _ _ => rfl

theorem isUniform_lift {ε : Type} (toProblem : ε → Problem) (result : Except ε α) :
    IsUniform (lift toProblem result) := by
  cases result with
  | ok a => exact isUniform_pure a
  | error e => exact isUniform_throw _

/-- What depends on the files does not depend on the working directory if the question to them
    does not. -/
theorem isUniform_bind_get {f : FileSystem → Action β}
    (hf : ∀ fs place, f (FileSystem.seenFrom place fs) = f fs) (hfs : ∀ fs, IsUniform (f fs)) :
    IsUniform (do f (← get).files) := by
  intro place σ
  calc f (σ.files.seenFrom place) (σ.seenFrom place)
      = f σ.files (σ.seenFrom place) := by rw [hf]
    _ = seenFrom place (f σ.files σ) := hfs σ.files place σ

theorem isUniform_ask {question : FileSystem → Except FileSystem.Error α}
    (h : ∀ fs place, question (FileSystem.seenFrom place fs) = question fs) :
    IsUniform (ask question) :=
  isUniform_bind_get (fun fs place => by rw [h]) fun fs => isUniform_lift .file (question fs)

theorem isUniform_change {f : FileSystem → Except FileSystem.Error FileSystem}
    (h : ∀ fs place, f (FileSystem.seenFrom place fs) = (f fs).map (.seenFrom place)) :
    IsUniform (change f) := by
  intro place σ
  have hchanged := h σ.files place
  cases hf : f σ.files with
  | ok files =>
    rw [hf] at hchanged
    rw [change_of_ok hf]
    exact change_of_ok hchanged
  | error e =>
    rw [hf] at hchanged
    rw [change, bind_of_error (ask_of_error hf)]
    exact bind_of_error (ask_of_error hchanged) _

section Absolute

variable {p : Path} (hp : p.isAbsolute = true)
include hp

theorem isUniform_write (content : List UInt8) :
    IsUniform (change fun fs => fs.write p content) :=
  isUniform_change fun fs place => FileSystem.write_seenFrom place fs hp content

theorem isUniform_read : IsUniform (ask fun fs => fs.read p) :=
  isUniform_ask fun fs place => FileSystem.read_seenFrom place fs hp

theorem isUniform_makeDirectories : IsUniform (makeDirectories p) := by
  intro place σ
  have hmade : (σ.seenFrom place).files.makeDirectories p =
      (σ.files.makeDirectories p).map (.seenFrom place) id :=
    FileSystem.makeDirectories_seenFrom place σ.files hp
  refine (bind_of_ok (show (get : Action Session) _ = .ok _ _ from rfl) _).trans ?_
  rw [hmade, makeDirectories, bind_of_ok (show (get : Action Session) σ = .ok σ σ from rfl)]
  cases σ.files.makeDirectories p with
  | mk made failure => cases failure <;> rfl

end Absolute

end Action

open InstallerKit.Action

/-! ### Resources -/

namespace Resource

/-- All paths of a resource are absolute. -/
structure IsAbsolute (r : Resource) : Prop where
  directory : ∀ d ∈ r.directory, d.isAbsolute = true
  content : ∀ p, r.content = some (.file p) → p.isAbsolute = true

variable {r : Resource} {dest : Path} (hr : r.IsAbsolute) (hdest : dest.isAbsolute = true)

include hdest in
theorem isUniform_write (content : List UInt8) : IsUniform (r.write dest content) :=
  (isUniform_lift _ _).bind fun _ =>
    (isUniform_makeDirectories (Path.isAbsolute_parent hdest)).bind fun _ =>
      Action.isUniform_write hdest _

include hr

theorem IsAbsolute.isUniform_load {c : Content} (hc : r.content = some c) : IsUniform c.load := by
  cases c with
  | bytes content => exact isUniform_pure content
  | file path => exact isUniform_read (hr.content path hc)
  | failing f => exact isUniform_throw f

theorem IsAbsolute.override?_seenFrom (fs : FileSystem) (place : List String) :
    r.override? (fs.seenFrom place) dest = r.override? fs dest := by
  rw [override?, override?]
  cases hd : r.directory with
  | none => rfl
  | some d =>
    have habsolute := Path.isAbsolute_child (hr.directory d hd) (nameOr r.publicName dest.name)
    simp only [FileSystem.isFile_seenFrom place fs habsolute]

theorem IsAbsolute.isAbsolute_of_override? {fs : FileSystem} {file : Path}
    (h : r.override? fs dest = .ok (some file)) : file.isAbsolute = true := by
  rw [override?] at h
  cases hd : r.directory with
  | none => simp [hd] at h
  | some d =>
    simp only [hd, bind, Except.bind] at h
    split at h
    · cases h
    · split at h
      · obtain rfl := Option.some.inj (Except.ok.inj h)
        exact Path.isAbsolute_child (hr.directory d hd) _
      · cases h

include hdest

theorem IsAbsolute.isUniform_trySource (s : Source) : IsUniform (r.trySource dest s) := by
  cases s with
  | directory =>
    refine (isUniform_ask hr.override?_seenFrom).bind_answer fun σ file? σ' hfile => ?_
    cases file? with
    | none => exact isUniform_pure false
    | some file =>
      have habsolute := hr.isAbsolute_of_override? ((hasEffect_ask _).of_ok hfile).1
      exact (isUniform_log _ _).bind fun _ => (isUniform_read habsolute).bind fun content =>
        (isUniform_write hdest content).bind fun _ => isUniform_pure true
  | default =>
    rw [trySource]
    cases hc : r.content with
    | none => exact isUniform_pure false
    | some c =>
      exact (isUniform_log _ _).bind fun _ => (hr.isUniform_load hc).bind fun content =>
        (isUniform_write hdest content).bind fun _ => isUniform_pure true

theorem IsAbsolute.isUniform_save : IsUniform (r.save dest) := by
  rw [save]
  induction r.order with
  | nil => exact isUniform_pure none
  | cons s rest ih =>
    refine (hr.isUniform_trySource hdest s).bind fun available => ?_
    cases available with
    | true => exact isUniform_pure (some s)
    | false => exact ih

end Resource

/-! ### Staging -/

/-- All paths of something that can be saved are absolute. -/
def Staging.Item.IsAbsolute (item : Staging.Item) : Prop :=
  ∀ r, item = .resource r → r.IsAbsolute

theorem Staging.isUniform_materialize {directory : Path} (hd : directory.isAbsolute = true)
    {entries : List Staging.Entry} (h : ∀ e ∈ entries, e.item.IsAbsolute) :
    IsUniform (Staging.materialize directory entries) := by
  have hsave (e : Staging.Entry) (he : e.item.IsAbsolute) :
      IsUniform (e.save (directory.child e.target)) := by
    have hdest := Path.isAbsolute_child hd e.target
    refine ((isUniform_makeDirectories (Path.isAbsolute_parent hdest)).bind fun _ => ?_).tryCatch
      fun f => isUniform_throw _
    match hitem : e.item with
    | .resource r => exact ((he r hitem).isUniform_save hdest).bind fun _ => isUniform_pure _
    | .foreign (.ok saved) => exact isUniform_pure saved
    | .foreign (.error f) => exact isUniform_throw f
  induction entries with
  | nil => exact isUniform_pure []
  | cons e rest ih =>
    rw [List.forall_mem_cons] at h
    exact (hsave e h.1).bind fun _ => (ih h.2).bind fun _ => isUniform_pure _

/-! ### Builds -/

theorem Document.isUniform_create {path : Path} (hp : path.isAbsolute = true) (s : Markup.Script)
    (indent : Option String) (encoding : String) :
    IsUniform (Document.create path s indent encoding) := by
  rw [Document.create]
  cases Document.render indent encoding s with
  | error f => exact isUniform_throw f
  | ok text =>
    refine IsUniform.bind ?_ fun _ => isUniform_log _ _
    refine (isUniform_makeDirectories (Path.isAbsolute_parent hp)).bind fun _ => ?_
    have hwrite : IsUniform (do
        Action.change fun fs => fs.write path []
        let content ← Action.lift id (Document.encode encoding text)
        Action.change fun fs => fs.write path content) :=
      (isUniform_write hp _).bind fun _ => (isUniform_lift _ _).bind fun _ => isUniform_write hp _
    split
    · exact (isUniform_throw _).bind fun _ => hwrite
    · exact hwrite

namespace Fragment.Builder

/-- All paths of a builder are absolute. -/
structure IsAbsolute (b : Builder) : Prop where
  target : ∀ t ∈ b.target, t.directory.isAbsolute = true
  fragment : ∀ r ∈ b.fragment, r.IsAbsolute
  resources : ∀ entries ∈ b.resources, ∀ e ∈ entries, e.item.IsAbsolute

theorem isUniform_emit (b : Builder) (e : Event) : IsUniform (b.emit e) := by
  refine (isUniform_note e).bind fun _ => ?_
  cases b.delivery e with
  | none => exact isUniform_pure ()
  | some f => exact isUniform_throw f

variable {b : Builder} (hb : b.IsAbsolute)
include hb

theorem IsAbsolute.isUniform_writeFragment {path : Path} (hp : path.isAbsolute = true) :
    IsUniform (b.writeFragment path) := by
  have horigin : IsUniform (b.resolveOrigin path) := by
    rw [resolveOrigin]
    cases hr : b.fragment with
    | none => exact isUniform_pure Origin.generated
    | some r => exact ((hb.fragment r hr).isUniform_save hp).bind fun _ => isUniform_pure _
  refine horigin.bind fun origin => ?_
  cases origin with
  | override =>
    exact (isUniform_log _ _).bind fun _ => (isUniform_emit b _).bind fun _ => isUniform_pure _
  | generated =>
    exact (Document.isUniform_create hp _ _ _).bind fun _ =>
      (isUniform_emit b _).bind fun _ => isUniform_pure _

theorem IsAbsolute.isUniform_stage {directory : Path} (hd : directory.isAbsolute = true) :
    IsUniform (b.stage directory) := by
  rw [stage]
  cases hentries : b.resources with
  | none => exact isUniform_pure []
  | some entries =>
    exact (Staging.isUniform_materialize hd (hb.resources entries hentries)).bind fun _ =>
      (isUniform_emit b _).bind fun _ => isUniform_pure _

/-- A builder whose paths are all absolute builds the same in every working directory. -/
theorem IsAbsolute.isUniform_build : IsUniform b.build := by
  rw [build_eq]
  refine (isUniform_lift id b.requireTarget).bind_answer fun σ t σ' ht => ?_
  have hd : t.directory.isAbsolute = true := by
    have htarget := ((hasEffect_lift id b.requireTarget).of_ok ht).1
    exact hb.target t (requireTarget_eq_ok_iff.1 htarget).2
  exact (hb.isUniform_writeFragment (Path.isAbsolute_child hd _)).bind fun _ =>
    (hb.isUniform_stage hd).bind fun _ => isUniform_pure _

end Fragment.Builder

end InstallerKit
