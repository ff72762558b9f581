import InstallerKit.Fragment.Builder
import InstallerKit.Proofs.FileSystem.Saving
import InstallerKit.Proofs.Resource.Reach

/-!
# What actions keep

Actions make directories and write files. None of them takes anything away, makes a directory
of a file, or goes to another working directory, not even if it fails. That is so for the few
actions that touch the file system, and for all that are put together from them.

* `Action.KeepsFiles`: an action keeps what is there;
* `Action.KeepsFiles.bind`, `Action.KeepsFiles.tryCatch`: so do actions that are put together;
* `Fragment.Builder.keepsFiles_build`: a build keeps what is there.
-/

namespace InstallerKit

/-! ### Changes of a file system -/

namespace FileSystem

variable {fs made : FileSystem} {p : Path}

theorem keeps_write {content : List UInt8} (h : fs.write p content = .ok made) :
    fs.Keeps made := by
  obtain ⟨hleads, hentry, rfl⟩ := write_eq_ok_iff.1 h
  exact keeps_set hentry content

theorem keeps_makeDirectories (fs : FileSystem) (p : Path) : fs.Keeps (fs.makeDirectories p).1 := by
  cases h : fs.makeDirectories p with
  | mk made failure => exact (addsDirectories_makeDirectories h).keeps

theorem keeps_place (fs : FileSystem) (path : String) (content : List UInt8) :
    fs.Keeps (fs.place path content) := by
  rw [place]
  split
  · exact keeps_makeDirectories fs _
  · refine (keeps_makeDirectories fs (Path.ofString path).parent).trans ?_
    dsimp only
    cases h : (fs.makeDirectories (Path.ofString path).parent).1.write (.ofString path) content with
    | ok written => exact keeps_write h
    | error e => exact .refl _

end FileSystem

/-! ### Actions -/

namespace Action

variable {α β : Type}

/-- An action keeps what is there, whether or not it fails. -/
def KeepsFiles (x : Action α) : Prop :=
  ∀ σ : Session, σ.files.Keeps (x.leaves σ).files

theorem KeepsFiles.bind {x : Action α} {f : α → Action β} (hx : KeepsFiles x)
    (hf : ∀ a, KeepsFiles (f a)) : KeepsFiles (x >>= f) := by
  intro σ
  have hfirst := hx σ
  rw [leaves] at hfirst
  cases h : x σ with
  | ok a σ₁ =>
    rw [h] at hfirst
    rw [leaves, bind_of_ok h]
    exact hfirst.trans (hf a σ₁)
  | error e σ₁ =>
    rw [h] at hfirst
    rw [leaves, bind_of_error h]
    exact hfirst

theorem KeepsFiles.tryCatch {x : Action α} {handler : Fault → Action α} (hx : KeepsFiles x)
    (hhandler : ∀ f, KeepsFiles (handler f)) : KeepsFiles (tryCatch x handler) := by
  intro σ
  have hfirst := hx σ
  rw [leaves] at hfirst
  cases h : x σ with
  | ok a σ₁ =>
    rw [h] at hfirst
    rw [leaves, tryCatch_of_ok h]
    exact hfirst
  | error e σ₁ =>
    rw [h] at hfirst
    rw [leaves, tryCatch_of_error h]
    exact hfirst.trans (hhandler e σ₁)

theorem keepsFiles_pure (a : α) : KeepsFiles (pure a) :=
  fun σ => .refl σ.files

theorem keepsFiles_throw (f : Fault) : KeepsFiles (throw f : Action α) :=
  fun σ => .refl σ.files

theorem keepsFiles_log (level : Level) (text : String) : KeepsFiles (log level text) :=
  fun σ => .refl σ.files

theorem keepsFiles_note (e : Event) : KeepsFiles (note e) :=
  fun σ => .refl σ.files

theorem keepsFiles_lift {ε : Type} (toProblem : ε → Problem) (result : Except ε α) :
    KeepsFiles (lift toProblem result) := by
  cases result with
  | ok a => exact keepsFiles_pure a
  | error e => exact keepsFiles_throw _

theorem keepsFiles_ask (question : FileSystem → Except FileSystem.Error α) :
    KeepsFiles (ask question) :=
  fun σ => keepsFiles_lift .file (question σ.files) σ

theorem keepsFiles_write (p : Path) (content : List UInt8) :
    KeepsFiles (change fun fs => fs.write p content) := by
  intro σ
  rw [leaves]
  cases h : σ.files.write p content with
  | ok files =>
    rw [change, bind_of_ok (ask_of_ok h)]
    exact FileSystem.keeps_write h
  | error e =>
    rw [change, bind_of_error (ask_of_error h)]
    exact .refl σ.files

theorem keepsFiles_makeDirectories (p : Path) : KeepsFiles (makeDirectories p) := by
  intro σ
  have hkeeps := FileSystem.keeps_makeDirectories σ.files p
  rw [leaves]
  cases h : σ.files.makeDirectories p with
  | mk made failure =>
    rw [h] at hkeeps
    cases failure with
    | none =>
      rw [makeDirectories_of_none h]
      exact hkeeps
    | some f =>
      rw [makeDirectories_of_some h]
      exact hkeeps

end Action

open InstallerKit.Action

/-! ### Resources -/

namespace Resource

variable (r : Resource) (dest : Path)

theorem keepsFiles_write (content : List UInt8) : KeepsFiles (r.write dest content) :=
  (keepsFiles_lift _ _).bind fun _ => (keepsFiles_makeDirectories _).bind fun _ =>
    Action.keepsFiles_write _ _

theorem keepsFiles_load (content : Content) : KeepsFiles content.load := by
  cases content with
  | bytes content => exact keepsFiles_pure content
  | file path => exact keepsFiles_ask fun fs => fs.read path
  | failing f => exact keepsFiles_throw f

theorem keepsFiles_trySource (s : Source) : KeepsFiles (r.trySource dest s) := by
  cases s with
  | directory =>
    refine (keepsFiles_ask _).bind fun taken => ?_
    cases taken with
    | none => exact keepsFiles_pure false
    | some file =>
      exact (keepsFiles_log _ _).bind fun _ => (keepsFiles_ask _).bind fun content =>
        (keepsFiles_write r dest content).bind fun _ => keepsFiles_pure true
  | default =>
    rw [trySource]
    cases r.content with
    | none => exact keepsFiles_pure false
    | some content =>
      exact (keepsFiles_log _ _).bind fun _ => (keepsFiles_load content).bind fun content =>
        (keepsFiles_write r dest content).bind fun _ => keepsFiles_pure true

theorem keepsFiles_save : KeepsFiles (r.save dest) := by
  rw [save]
  induction r.order with
  | nil => exact keepsFiles_pure none
  | cons s rest ih =>
    refine (keepsFiles_trySource r dest s).bind fun available => ?_
    cases available with
    | true => exact keepsFiles_pure (some s)
    | false => exact ih

end Resource

theorem Staging.keepsFiles_materialize (directory : Path) (entries : List Staging.Entry) :
    KeepsFiles (Staging.materialize directory entries) := by
  have hsave (dest : Path) (e : Staging.Entry) : KeepsFiles (e.save dest) := by
    refine ((keepsFiles_makeDirectories _).bind fun _ => ?_).tryCatch fun f => keepsFiles_throw _
    match e.item with
    | .resource r => exact (Resource.keepsFiles_save r dest).bind fun _ => keepsFiles_pure _
    | .foreign (.ok saved) => exact keepsFiles_pure saved
    | .foreign (.error f) => exact keepsFiles_throw f
  induction entries with
  | nil => exact keepsFiles_pure []
  | cons e rest ih => exact (hsave _ e).bind fun _ => ih.bind fun _ => keepsFiles_pure _

/-! ### Builds -/

theorem Document.keepsFiles_create (path : Path) (s : Markup.Script) (indent : Option String)
    (encoding : String) : KeepsFiles (Document.create path s indent encoding) := by
  rw [Document.create]
  cases Document.render indent encoding s with
  | error f => exact keepsFiles_throw f
  | ok text =>
    refine KeepsFiles.bind ?_ fun _ => keepsFiles_log _ _
    refine (keepsFiles_makeDirectories _).bind fun _ => ?_
    -- The file is emptied before the text is encoded, and stays empty if that fails.
    have hwrite : KeepsFiles (do
        Action.change fun fs => fs.write path []
        let content ← Action.lift id (Document.encode encoding text)
        Action.change fun fs => fs.write path content) :=
      (keepsFiles_write _ _).bind fun _ => (keepsFiles_lift _ _).bind fun _ => keepsFiles_write _ _
    split
    · exact (keepsFiles_throw _).bind fun _ => hwrite
    · exact hwrite

namespace Fragment.Builder

variable (b : Builder)

theorem keepsFiles_emit (e : Event) : KeepsFiles (b.emit e) := by
  refine (keepsFiles_note e).bind fun _ => ?_
  cases b.delivery e with
  | none => exact keepsFiles_pure ()
  | some f => exact keepsFiles_throw f

theorem keepsFiles_resolveOrigin (path : Path) : KeepsFiles (b.resolveOrigin path) := by
  rw [resolveOrigin]
  cases b.fragment with
  | none => exact keepsFiles_pure Origin.generated
  | some r => exact (Resource.keepsFiles_save r path).bind fun _ => keepsFiles_pure _

theorem keepsFiles_writeFragment (path : Path) : KeepsFiles (b.writeFragment path) := by
  refine (keepsFiles_resolveOrigin b path).bind fun origin => ?_
  cases origin with
  | override =>
    exact (keepsFiles_log _ _).bind fun _ => (keepsFiles_emit b _).bind fun _ => keepsFiles_pure _
  | generated =>
    exact (Document.keepsFiles_create _ _ _ _).bind fun _ =>
      (keepsFiles_emit b _).bind fun _ => keepsFiles_pure _

theorem keepsFiles_stage (directory : Path) : KeepsFiles (b.stage directory) := by
  rw [stage]
  cases b.resources with
  | none => exact keepsFiles_pure []
  | some entries =>
    exact (Staging.keepsFiles_materialize directory entries).bind fun _ =>
      (keepsFiles_emit b _).bind fun _ => keepsFiles_pure _

/-- A build keeps what is there, whether or not it fails. -/
theorem keepsFiles_build : KeepsFiles b.build := by
  rw [build_eq]
  exact (keepsFiles_lift _ _).bind fun t => (keepsFiles_writeFragment b t.path).bind fun _ =>
    (keepsFiles_stage b t.directory).bind fun _ => keepsFiles_pure _

theorem keepsFiles_logFeatures : KeepsFiles b.logFeatures := by
  rw [logFeatures]
  cases b.version with
  | none => exact keepsFiles_pure false
  | some v =>
    dsimp only
    split
    · exact (keepsFiles_log _ _).bind fun _ => keepsFiles_pure true
    · exact keepsFiles_pure false

end Fragment.Builder

end InstallerKit
