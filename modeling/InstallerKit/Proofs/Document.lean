import InstallerKit.Document
import InstallerKit.Proofs.Effect

/-!
# Documents that cannot be saved

A document is rendered before anything is done to the files, so a script that fails leaves them
as they are. Directories that cannot be made, and a file that cannot be opened, leave them as
they are as well, but for directories that have been added. The text, though, is turned into
bytes when its file has already been emptied. So a text that has no bytes in the encoding, or an
encoding that is unknown, takes the content of the file along, and no other failure does.

* `LosesFile`: a document takes the content of its file along;
* `save_of_encode_eq_error`, `addsDirectories_of_save_error`: the two ways to fail;
* `content?_of_create_error`: the files after a failure.
-/

namespace InstallerKit.Document

open InstallerKit.Action FileSystem

variable {path : Path} {encoding : String} {text : List Char} {σ σ' : Session}

/-! ### Saving a text -/

/-- A text that has no bytes leaves an empty file, if the file can be opened. -/
theorem save_of_encode_eq_error {p : Problem} (hname : encoding.toList.contains '\x00' = false)
    (hpath : σ.files.CanSave path) (hencode : encode encoding text = .error p) :
    save path encoding text σ = .error (.of p) { σ with files := σ.files.withFile path [] } := by
  obtain ⟨made, hmade, hwrite⟩ := (canSave_iff σ.files path []).1 hpath
  rw [save, hname, hencode]
  refine (bind_of_ok (makeDirectories_of_none hmade) _).trans ?_
  have hempty : change (fun fs => fs.write path []) { σ with files := made } =
      .ok () { σ with files := σ.files.withFile path [] } := change_of_ok hwrite
  exact (bind_of_ok hempty _).trans rfl

/-- Any other failure has added directories at most. -/
theorem addsDirectories_of_save_error {f : Fault}
    (hencode : encoding.toList.contains '\x00' = false → σ.files.CanSave path →
      ∃ bytes, encode encoding text = .ok bytes)
    (h : save path encoding text σ = .error f σ') : σ.files.AddsDirectories σ'.files := by
  rcases bind_eq_error_iff.1 h with h | ⟨_, σ₁, hmade, h⟩
  · exact failsCleanly_makeDirectories _ σ f σ' h
  · replace hmade := (hasEffect_makeDirectories path.parent).of_ok hmade
    refine (addsDirectories_makeDirectories hmade).trans ?_
    cases hname : encoding.toList.contains '\x00' with
    | true =>
      simp only [hname, if_true] at h
      cases h
      exact .refl _
    | false =>
      simp only [hname, Bool.false_eq_true, if_false] at h
      rcases bind_eq_error_iff.1 h with h | ⟨_, σ₂, hempty, h⟩
      · exact failsCleanly_change _ σ₁ f σ' h
      · -- The file has been opened, so the text has bytes, and they can be written.
        replace hempty := (hasEffect_change _).of_ok hempty
        obtain ⟨hleads, hne, -⟩ := write_eq_ok_iff.1 hempty
        obtain ⟨bytes, hbytes⟩ := hencode hname ⟨σ₁.files, hmade, hleads, hne⟩
        obtain ⟨files, hwrite⟩ := exists_write_of_write hempty bytes
        have hlift : lift id (.ok bytes) σ₂ = .ok bytes σ₂ := rfl
        rw [hbytes] at h
        cases h.symm.trans ((bind_of_ok hlift _).trans (change_of_ok hwrite))

/-! ### Making a document -/

/-- A document is rendered and its file can be opened, but its text has no bytes. -/
def LosesFile (fs : FileSystem) (path : Path) (s : Markup.Script) (indent : Option String)
    (encoding : String) : Prop :=
  encoding.toList.contains '\x00' = false ∧ fs.CanSave path ∧
    ∃ text p, render indent encoding s = .ok text ∧ encode encoding text = .error p

variable {s : Markup.Script} {indent : Option String}

theorem create_of_losesFile (h : LosesFile σ.files path s indent encoding) :
    ∃ p, create path s indent encoding σ =
      .error (.of p) { σ with files := σ.files.withFile path [] } := by
  obtain ⟨hname, hpath, text, p, hrender, hencode⟩ := h
  refine ⟨p, ?_⟩
  rw [create, hrender]
  exact bind_of_error (save_of_encode_eq_error hname hpath hencode) _

theorem addsDirectories_of_create_error {f : Fault}
    (hkeeps : ¬ LosesFile σ.files path s indent encoding)
    (h : create path s indent encoding σ = .error f σ') : σ.files.AddsDirectories σ'.files := by
  rw [create] at h
  cases hrender : render indent encoding s with
  | error g =>
    rw [hrender] at h
    cases h
    exact .refl _
  | ok text =>
    rw [hrender] at h
    rcases bind_eq_error_iff.1 h with h | ⟨_, _, _, ⟨⟩⟩
    refine addsDirectories_of_save_error (fun hname hpath => ?_) h
    cases hencode : encode encoding text with
    | ok bytes => exact ⟨bytes, rfl⟩
    | error p => exact absurd ⟨hname, hpath, text, p, hrender, hencode⟩ hkeeps

/-- A document that cannot be made leaves every file as it was, and adds none, unless it is
    rendered, its file can be opened, and its text then has no bytes. In that case it is never
    made, and leaves the file empty, and every other one as it was. -/
theorem content?_of_create_error (path : Path) (s : Markup.Script) (indent : Option String)
    (encoding : String) (σ : Session) :
    (¬ LosesFile σ.files path s indent encoding → ∀ f σ',
      create path s indent encoding σ = .error f σ' →
        ∀ place, σ'.files.content? place = σ.files.content? place) ∧
    (LosesFile σ.files path s indent encoding → ∃ f σ',
      create path s indent encoding σ = .error f σ' ∧ σ'.files.read path = .ok [] ∧
        ∀ place, place ≠ σ.files.goal path →
          σ'.files.content? place = σ.files.content? place) := by
  refine ⟨fun hkeeps f σ' h => (addsDirectories_of_create_error hkeeps h).content?, ?_⟩
  intro hloses
  obtain ⟨p, hcreate⟩ := create_of_losesFile hloses
  have hsaves : σ.files.Saves path [] (σ.files.withFile path []) :=
    (canSave_iff σ.files path []).1 hloses.2.1
  refine ⟨_, _, hcreate, read_eq_ok_iff.2 hsaves.find, fun place hplace => ?_⟩
  rw [hsaves.content?, if_neg hplace]

/-- Whether making a document fails and leaves files that have a property. -/
def failsLeaving (path : Path) (s : Markup.Script) (encoding : String) (σ : Session)
    (p : FileSystem → Bool) : Bool :=
  match create path s none encoding σ with
  | .ok _ _ => false
  | .error _ σ' => p σ'.files

theorem exists_of_failsLeaving {p : FileSystem → Bool}
    (h : failsLeaving path s encoding σ p = true) :
    ∃ f σ', create path s none encoding σ = .error f σ' ∧ p σ'.files = true := by
  rw [failsLeaving] at h
  split at h
  · cases h
  · next f σ' hcreate => exact ⟨f, σ', hcreate, h⟩

/-- A script that fails leaves the file as it was, whatever the encoding is. -/
theorem content?_of_create_error_of_failing_script :
    let σ : Session := ⟨(withDirectory ["work"]).place "main.wxs" [111, 108, 100], [], []⟩
    let s : Markup.Script := .ofCalls [.startElement (.text "a"), .endElement, .endElement]
    let path : Path := .ofString "main.wxs"
    ¬ LosesFile σ.files path s none "ascii" ∧
      ∃ f σ', create path s none "ascii" σ = .error f σ' ∧
        σ'.files.content? ["work", "main.wxs"] = some [111, 108, 100] := by
  intro σ s path
  have hkeeps : ¬ LosesFile σ.files path s none "ascii" := by
    rintro ⟨-, -, text, -, hrender, -⟩
    have hfails : (render none "ascii" s).toOption = none := by decide +kernel
    rw [hrender] at hfails
    cases hfails
  have hfails : failsLeaving path s "ascii" σ (fun _ => true) = true := by decide +kernel
  obtain ⟨f, σ', hcreate, -⟩ := exists_of_failsLeaving hfails
  have hbefore : σ.files.content? ["work", "main.wxs"] = some [111, 108, 100] := by
    decide +kernel
  refine ⟨hkeeps, f, σ', hcreate, ?_⟩
  rw [(content?_of_create_error path s none "ascii" σ).1 hkeeps f σ' hcreate, hbefore]

/-- A text that has no bytes in its encoding takes the content of its file along. -/
theorem read_of_unencodable_text :
    let σ : Session := ⟨(withDirectory ["work"]).place "main.wxs" [111, 108, 100], [], []⟩
    let s : Markup.Script :=
      .ofCalls [.startElement (.text "a"), .characters "é", .endElement]
    let path : Path := .ofString "main.wxs"
    σ.files.read path = .ok [111, 108, 100] ∧ ∃ f σ', create path s none "ascii" σ = .error f σ' ∧
      σ'.files.read path = .ok [] := by
  intro σ s path
  refine ⟨toOption_eq_some_iff.1 (by decide +kernel), ?_⟩
  have hfails : failsLeaving path s "ascii" σ
      (fun files => (files.read path).toOption = some []) = true := by decide +kernel
  obtain ⟨f, σ', hcreate, hread⟩ := exists_of_failsLeaving hfails
  exact ⟨f, σ', hcreate, toOption_eq_some_iff.1 (of_decide_eq_true hread)⟩

end InstallerKit.Document
