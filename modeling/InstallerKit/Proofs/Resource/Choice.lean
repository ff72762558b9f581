import InstallerKit.Proofs.Resource.Substitution
import InstallerKit.Proofs.Resource.Supply

/-!
# Which source counts

The sources of a resource are tried in order, and those that are not available are passed over
without a trace. The first one that is available decides: what is found in it is saved, or
nothing is, and in either case the sources behind it play no part. A content that cannot be
read, or that should be text and is none, is noticed before anything is done to the files.

* `IsAvailable`, `IsChosen`: the source that counts;
* `saveFrom_append`, `saveFrom_cons`: the sources before it and behind it;
* `save_chooses`: saving a resource;
* `save_of_undisturbed`: saving one with tokens.
-/

namespace InstallerKit.Resource

open InstallerKit.Action FileSystem

variable {r : Resource} {dest : Path} {fs : FileSystem} {σ : Session} {s : Source}

/-! ### The source that counts -/

/-- A source is available: there is a file of the right name in the resource directory, or there
    is a default content. -/
def IsAvailable (r : Resource) (fs : FileSystem) (dest : Path) : Source → Prop
  | .directory => ∃ directory content, r.directory = some directory ∧
      fs.find (directory.child (nameOr r.publicName dest.name)) = .ok (.file content)
  | .default => r.content.isSome

/-- A source is the first one in the order that is available. -/
def IsChosen (r : Resource) (fs : FileSystem) (dest : Path) (s : Source) : Prop :=
  ∃ before after, r.order = before ++ s :: after ∧
    (∀ earlier ∈ before, ¬ r.IsAvailable fs dest earlier) ∧ r.IsAvailable fs dest s

/-- Looking into a source is the way to see whether it is available. -/
theorem isAvailable_iff (hnames : ∀ file, r.candidate? dest = some file → HasShortNames file)
    (fs : FileSystem) (s : Source) : r.IsAvailable fs dest s ↔ r.found fs dest s ≠ .ok none := by
  cases s with
  | directory =>
    rw [IsAvailable, found]
    cases hdirectory : r.directory with
    | none => simp [candidate?, hdirectory]
    | some directory =>
      have hcandidate :
          r.candidate? dest = some (directory.child (nameOr r.publicName dest.name)) := by
        rw [candidate?, hdirectory, Option.map_some]
      -- Names that are too long would make looking for the file fail.
      obtain ⟨content?, hlookUp⟩ := exists_lookUp fs (hnames _ hcandidate)
      rw [hcandidate]
      simp only [← lookUp_eq_some_iff, Option.some.injEq, exists_and_left, exists_eq_left']
      rw [hlookUp]
      cases content? <;> simp
  | default =>
    rw [IsAvailable, found]
    cases r.content with
    | none => simp
    | some content =>
      dsimp only
      cases content.read fs <;> simp [Except.map]

theorem found_of_not_isAvailable
    (hnames : ∀ file, r.candidate? dest = some file → HasShortNames file)
    (h : ¬ r.IsAvailable fs dest s) : r.found fs dest s = .ok none :=
  of_not_not (mt (isAvailable_iff hnames fs s).2 h)

/-! ### Trying one source -/

theorem trySource_of_found_none (h : r.found σ.files dest s = .ok none) :
    r.trySource dest s σ = .ok false σ := by
  cases s with
  | directory =>
    have hnone := (r.override?_eq_ok_none_iff dest).2 h
    have hask : ask (fun fs => r.override? fs dest) σ = .ok none σ := ask_of_ok hnone
    exact bind_of_ok hask _
  | default =>
    rw [found] at h
    rw [trySource]
    cases hcontent : r.content with
    | none => rfl
    | some content =>
      rw [hcontent] at h
      obtain ⟨_, -, ⟨⟩⟩ := except_map_eq_ok_iff.1 h

theorem override?_eq_error {e : FileSystem.Error} {file : Path}
    (hfile : r.candidate? dest = some file) (h : fs.lookUp file = .error e) :
    r.override? fs dest = .error e := by
  obtain ⟨directory, hdirectory, rfl⟩ := Option.map_eq_some_iff.1 hfile
  rw [override?, hdirectory]
  simp only [isFile_eq, h]
  rfl

theorem refuses_load {c : Content} {f : Fault} (h : c.read fs = .error f) :
    Refuses c.load fs f := by
  cases c with
  | bytes content => cases h
  | file path =>
    rw [Content.read] at h
    cases hread : fs.read path with
    | ok content => rw [hread] at h; cases h
    | error e =>
      rw [hread] at h
      cases h
      exact refuses_ask (fun fs => fs.read path) hread
  | failing g =>
    obtain rfl := Except.error.inj h
    exact refuses_throw fs g

/-- A source that cannot be read fails, and so does the resource. -/
theorem refuses_trySource_of_found_error {f : Fault} (h : r.found fs dest s = .error f) :
    Refuses (r.trySource dest s) fs f := by
  cases s with
  | directory =>
    rw [found] at h
    cases hfile : r.candidate? dest with
    | none => rw [hfile] at h; cases h
    | some file =>
      rw [hfile] at h
      cases hlookUp : fs.lookUp file with
      | ok content? => simp [hlookUp] at h
      | error e =>
        simp only [hlookUp, mapError_error, Except.error.injEq] at h
        subst h
        have hask := override?_eq_error hfile hlookUp
        exact (refuses_ask (fun fs => r.override? fs dest) hask).bind _
  | default =>
    rw [found] at h
    rw [trySource]
    cases hcontent : r.content with
    | none => rw [hcontent] at h; cases h
    | some c =>
      rw [hcontent] at h
      cases hread : c.read fs with
      | ok content => simp [hread, Except.map] at h
      | error g =>
        simp only [hread, Except.map, Except.error.injEq] at h
        subst h
        exact refuses_bind (a := ()) (hasEffect_log _ _) rfl ((refuses_load hread).bind _)

/-- A content that should be text and is none is refused before anything is written. -/
theorem refuses_trySource_of_finish_error {content : List UInt8} {p : Problem}
    (h : r.found fs dest s = .ok (some content))
    (hfinish : finish r.substitutions content = .error p) :
    Refuses (r.trySource dest s) fs (.of p) := by
  -- The content is finished before the directories above the destination are made.
  have hwrite : Refuses (do r.write dest content; return true) fs (.of p) :=
    ((refuses_lift fs id hfinish).bind _).bind _
  cases s with
  | directory =>
    obtain ⟨file, hfile, hread⟩ := (r.override?_eq_ok_some_iff dest).2 h
    refine refuses_bind (hasEffect_ask fun fs => r.override? fs dest) ⟨hfile, rfl⟩ ?_
    refine refuses_bind (a := ()) (hasEffect_log _ _) rfl ?_
    exact refuses_bind (hasEffect_ask fun fs => fs.read file) ⟨hread, rfl⟩ hwrite
  | default =>
    rw [found] at h
    rw [trySource]
    cases hcontent : r.content with
    | none => rw [hcontent] at h; cases h
    | some c =>
      rw [hcontent] at h
      obtain ⟨_, hread, ⟨⟩⟩ := except_map_eq_ok_iff.1 h
      refine refuses_bind (a := ()) (hasEffect_log _ _) rfl ?_
      exact refuses_bind (hasEffect_load c) ⟨hread, rfl⟩ hwrite

/-! ### Trying several sources -/

/-- Sources that are not available are passed over. -/
theorem saveFrom_append {before : List Source}
    (h : ∀ earlier ∈ before, r.found σ.files dest earlier = .ok none) (rest : List Source) :
    r.saveFrom dest (before ++ rest) σ = r.saveFrom dest rest σ := by
  induction before with
  | nil => rfl
  | cons earlier before ih =>
    rw [List.cons_append, saveFrom]
    refine (bind_of_ok (trySource_of_found_none (h earlier (List.mem_cons_self ..))) _).trans ?_
    exact ih fun other hother => h other (List.mem_cons_of_mem _ hother)

/-- Sources behind one that is available play no part. -/
theorem saveFrom_cons (h : r.found σ.files dest s ≠ .ok none) (rest : List Source) :
    r.saveFrom dest (s :: rest) σ = r.saveFrom dest [s] σ := by
  rw [saveFrom, saveFrom]
  cases htry : r.trySource dest s σ with
  | error f σ' => exact (bind_of_error htry _).trans (bind_of_error htry _).symm
  | ok available σ' =>
    refine (bind_of_ok htry _).trans (Eq.trans ?_ (bind_of_ok htry _).symm)
    -- A source that has been tried in vain was not available.
    rcases (r.hasEffect_trySource dest s).of_ok htry with ⟨hnone, -⟩ | ⟨_, _, -, -, rfl, -⟩
    · exact absurd hnone h
    · rfl

/-- Saving a resource is to try the source that counts. -/
theorem save_of_isChosen (hnames : ∀ file, r.candidate? dest = some file → HasShortNames file)
    (h : r.IsChosen σ.files dest s) : r.save dest σ = r.saveFrom dest [s] σ := by
  obtain ⟨before, after, horder, hbefore, hs⟩ := h
  have hpassed : ∀ earlier ∈ before, r.found σ.files dest earlier = .ok none :=
    fun earlier h => found_of_not_isAvailable hnames (hbefore earlier h)
  rw [save, horder, saveFrom_append hpassed,
    saveFrom_cons ((isAvailable_iff hnames σ.files s).1 hs)]

theorem refuses_saveFrom {f : Fault} (h : Refuses (r.trySource dest s) fs f)
    (rest : List Source) : Refuses (r.saveFrom dest (s :: rest)) fs f := by
  rw [saveFrom]
  exact h.bind _

/-- What is found in the source that counts is saved, if it can be. -/
theorem save_of_finish {content arrived : List UInt8}
    (hnames : ∀ file, r.candidate? dest = some file → HasShortNames file)
    (hs : r.IsChosen σ.files dest s) (h : r.found σ.files dest s = .ok (some content))
    (hfinish : finish r.substitutions content = .ok arrived) (hpath : σ.files.CanSave dest) :
    ∃ σ', r.save dest σ = .ok (some s) σ' ∧ σ.files.Saves dest arrived σ'.files ∧
      σ'.files.read dest = .ok arrived := by
  have hsaves := (canSave_iff σ.files dest arrived).1 hpath
  obtain ⟨σ', htry, hfiles⟩ := (r.hasEffect_trySource dest s).exists_ok
    (.inr ⟨content, arrived, h, hfinish, rfl, hsaves⟩)
  rw [← hfiles] at hsaves
  refine ⟨σ', ?_, hsaves, read_eq_ok_iff.2 hsaves.find⟩
  rw [save_of_isChosen hnames hs, saveFrom]
  exact (bind_of_ok htry _).trans rfl

/-! ### Saving a resource -/

/-- If no source is available, nothing happens. Otherwise the first one in the order that is
    available is tried, and no other one. If it cannot be read, or gives no text where tokens are
    to be replaced, that is the fault, and the files are as they were. Otherwise the destination
    holds its content, if a file can be saved there; as it is, if there is nothing to replace. -/
theorem save_chooses (r : Resource) (dest : Path) (σ : Session)
    (hnames : ∀ file, r.candidate? dest = some file → HasShortNames file) :
    ((∀ s ∈ r.order, ¬ r.IsAvailable σ.files dest s) → r.save dest σ = .ok none σ) ∧
    ∀ s, r.IsChosen σ.files dest s →
      r.save dest σ = r.saveFrom dest [s] σ ∧
      match r.found σ.files dest s with
      | .error f => ∃ σ', r.save dest σ = .error f σ' ∧ σ'.files = σ.files
      | .ok none => False
      | .ok (some content) =>
        (∀ e, r.substitutions.isEmpty = false → Text.Utf8.decode content = .error e →
          ∃ σ', r.save dest σ = .error (.of (.undecodable e)) σ' ∧ σ'.files = σ.files) ∧
        (σ.files.CanSave dest →
          r.substitutions.isEmpty = true ∨ (∃ text, Text.Utf8.decode content = .ok text) →
          ∃ arrived σ', r.save dest σ = .ok (some s) σ' ∧ σ.files.Saves dest arrived σ'.files ∧
            σ'.files.read dest = .ok arrived ∧
            (ArrivesAsIs r.substitutions content → arrived = content)) := by
  refine ⟨fun hnone => ?_, fun s hs => ?_⟩
  · have hpassed : r.saveFrom dest (r.order ++ []) σ = .ok none σ :=
      saveFrom_append (fun s hs => found_of_not_isAvailable hnames (hnone s hs)) []
    rwa [List.append_nil] at hpassed
  · have hsave := save_of_isChosen hnames hs
    refine ⟨hsave, ?_⟩
    -- From here on, all depends on what is found in the source.
    split
    · next f hfound =>
      rw [hsave]
      exact refuses_saveFrom (refuses_trySource_of_found_error hfound) [] σ rfl
    · next hfound =>
      obtain ⟨_, _, -, -, havailable⟩ := hs
      exact (isAvailable_iff hnames σ.files s).1 havailable hfound
    · next content hfound =>
      constructor
      · intro e hempty hdecode
        rw [hsave]
        have hfinish := finish_of_decode_error hempty hdecode
        exact refuses_saveFrom (refuses_trySource_of_finish_error hfound hfinish) [] σ rfl
      · intro hpath htext
        obtain ⟨arrived, hfinish⟩ : ∃ arrived, finish r.substitutions content = .ok arrived := by
          rcases htext with hempty | ⟨text, htext⟩
          · exact ⟨_, finish_of_isEmpty hempty content⟩
          · exact ⟨_, finish_of_decode r.substitutions htext⟩
        obtain ⟨σ', hsaved, hsaves, hread⟩ := save_of_finish hnames hs hfound hfinish hpath
        refine ⟨arrived, σ', hsaved, hsaves, hread, fun hasis => ?_⟩
        exact Except.ok.inj (hfinish.symm.trans (finish_of_arrivesAsIs hasis))

/-- A file in the resource directory is saved as it is, whatever its bytes are, and the default
    content is not. -/
theorem save_chooses_override :
    let r : Resource := { Resource.empty with
      content := some (.bytes [104, 105]), directory := some (.ofString "custom") }
    let σ : Session := ⟨(withDirectory ["work"]).place "custom/x.txt" [255], [], []⟩
    let dest : Path := .ofString "out/x.txt"
    (∀ file, r.candidate? dest = some file → HasShortNames file) ∧
      r.IsChosen σ.files dest .directory ∧ σ.files.CanSave dest ∧
      ∃ σ', r.save dest σ = .ok (some .directory) σ' ∧ σ'.files.read dest = .ok [255] := by
  intro r σ dest
  have hnames : ∀ file, r.candidate? dest = some file → HasShortNames file := by
    rintro file ⟨⟩
    decide +kernel
  have hfind : σ.files.find (.child (.ofString "custom") "x.txt") = .ok (.file [255]) :=
    toOption_eq_some_iff.1 (by decide +kernel)
  have hs : r.IsChosen σ.files dest .directory :=
    ⟨[], [.default], rfl, List.forall_mem_nil _, _, _, rfl, hfind⟩
  have hpath : σ.files.CanSave dest := by decide +kernel
  have hfound : r.found σ.files dest .directory = .ok (some [255]) :=
    toOption_eq_some_iff.1 (by decide +kernel)
  obtain ⟨-, hsaved⟩ := (save_chooses r dest σ hnames).2 .directory hs
  rw [hfound] at hsaved
  obtain ⟨arrived, σ', hsave, -, hread, hasis⟩ := hsaved.2 hpath (.inl rfl)
  exact ⟨hnames, hs, hpath, σ', hsave, hread.trans (congrArg _ (hasis (.inl rfl)))⟩

/-- The content of a text is saved with its tokens replaced as if at once, and whatever the order
    of the keys is, if none of the tokens is disturbed by values that have been filled in before.
    None is in any text if no value has anything in common with the token of a later key. -/
theorem save_of_undisturbed {content : List UInt8} {text : List Char} {t : Table String}
    (hnames : ∀ file, r.candidate? dest = some file → HasShortNames file)
    (hs : r.IsChosen σ.files dest s) (hfound : r.found σ.files dest s = .ok (some content))
    (hpath : σ.files.CanSave dest) (htext : Text.Utf8.decode content = .ok text)
    (hapart : Text.AreApart ((rules r.substitutions).map Prod.fst))
    (hperm : t.entries.Perm r.substitutions.entries) :
    (Text.AreInert (rules t) → Text.Undisturbed text (rules t) text) ∧
    (Text.Undisturbed text (rules t) text →
      ∃ σ', { r with substitutions := t }.save dest σ = .ok (some s) σ' ∧
        σ.files.Saves dest (Text.Utf8.encode (Text.replaceEach (rules r.substitutions) text))
          σ'.files ∧
        σ'.files.read dest =
          .ok (Text.Utf8.encode (Text.replaceEach (rules r.substitutions) text))) := by
  refine ⟨fun h => undisturbed_of_areInert hapart hperm h text, fun h => ?_⟩
  -- Neither the choice of a source nor what is found in it has to do with the table.
  exact save_of_finish (r := { r with substitutions := t }) hnames hs hfound
    (finish_of_undisturbed htext hapart hperm h) hpath

/-- A value with a token in it is left as it is, if the key of that token comes before. -/
theorem save_of_undisturbed_of_later_token :
    let text : List Char := "$\x7bA\x7d-$\x7bB\x7d".toList
    let t : Table String := .ofList [("B", "x"), ("A", "$\x7bB\x7d")]
    let r : Resource := { Resource.empty with
      content := some (.bytes (Text.Utf8.encode text))
      substitutions := .ofList [("A", "$\x7bB\x7d"), ("B", "x")] }
    let σ : Session := ⟨withDirectory ["work"], [], []⟩
    let dest : Path := .ofString "out.txt"
    t.entries.Perm r.substitutions.entries ∧ Text.Undisturbed text (rules t) text ∧
      ∃ σ', { r with substitutions := t }.save dest σ = .ok (some .default) σ' ∧
        σ'.files.read dest = .ok (Text.Utf8.encode "$\x7bB\x7d-x".toList) := by
  intro text t r σ dest
  have hperm : t.entries.Perm r.substitutions.entries := by decide +kernel
  have hundisturbed : Text.Undisturbed text (rules t) text := by decide +kernel
  have hplain : ∀ key ∈ r.substitutions.keys, IsPlain key := by decide +kernel
  have hs : r.IsChosen σ.files dest .default :=
    ⟨[.directory], [], rfl, by simp [IsAvailable, r, Resource.empty], rfl⟩
  have htext : Text.Utf8.decode (Text.Utf8.encode text) = .ok text :=
    toOption_eq_some_iff.1 (by decide +kernel)
  have hvalues : Text.replaceEach (rules r.substitutions) text = "$\x7bB\x7d-x".toList := by
    decide +kernel
  have hnames : ∀ file, r.candidate? dest = some file → HasShortNames file := by
    rintro file ⟨⟩
  obtain ⟨σ', hsave, -, hread⟩ := (save_of_undisturbed hnames hs rfl (by decide +kernel) htext
    (areApart_of_plain_keys hplain) hperm).2 hundisturbed
  exact ⟨hperm, hundisturbed, σ', hsave, hvalues ▸ hread⟩

/-- A token in a value is replaced if its key comes later, so the order of the keys matters. -/
theorem save_of_token_in_value :
    let r (t : Table String) : Resource := { Resource.empty with
      content := some (.bytes (Text.Utf8.encode "$\x7bA\x7d".toList)), substitutions := t }
    let t : Table String := .ofList [("A", "$\x7bB\x7d"), ("B", "x")]
    let t' : Table String := .ofList [("B", "x"), ("A", "$\x7bB\x7d")]
    let σ : Session := ⟨withDirectory ["work"], [], []⟩
    let dest : Path := .ofString "out.txt"
    t'.entries.Perm t.entries ∧
      Text.replaceEach (rules t) "$\x7bA\x7d".toList = "$\x7bB\x7d".toList ∧
      (∃ σ', (r t).save dest σ = .ok (some .default) σ' ∧
        σ'.files.read dest = .ok (Text.Utf8.encode "x".toList)) ∧
      ∃ σ', (r t').save dest σ = .ok (some .default) σ' ∧
        σ'.files.read dest = .ok (Text.Utf8.encode "$\x7bB\x7d".toList) := by
  intro r t t' σ dest
  have hs (t : Table String) : (r t).IsChosen σ.files dest .default :=
    ⟨[.directory], [], rfl, by simp [IsAvailable, r, Resource.empty], rfl⟩
  have hfinish : finish t (Text.Utf8.encode "$\x7bA\x7d".toList) =
      .ok (Text.Utf8.encode "x".toList) := toOption_eq_some_iff.1 (by decide +kernel)
  have hfinish' : finish t' (Text.Utf8.encode "$\x7bA\x7d".toList) =
      .ok (Text.Utf8.encode "$\x7bB\x7d".toList) := toOption_eq_some_iff.1 (by decide +kernel)
  have hpath : σ.files.CanSave dest := by decide +kernel
  have hnames (t : Table String) :
      ∀ file, (r t).candidate? dest = some file → HasShortNames file := by
    rintro file ⟨⟩
  obtain ⟨σ', hsave, -, hread⟩ := save_of_finish (hnames t) (hs t) rfl hfinish hpath
  obtain ⟨σ'', hsave', -, hread'⟩ := save_of_finish (hnames t') (hs t') rfl hfinish' hpath
  exact ⟨by decide +kernel, by decide +kernel, ⟨σ', hsave, hread⟩, σ'', hsave', hread'⟩

end InstallerKit.Resource
