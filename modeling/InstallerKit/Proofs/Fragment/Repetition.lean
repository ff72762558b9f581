import InstallerKit.Proofs.Fragment.Outcome
import InstallerKit.Proofs.Resource.Repetition

/-!
# Building again

A builder that has built can build again, and looks at the files as they are by then. If it
finds the same to save it makes the same again, and leaves everything as it is. It finds the
same if the files that it looks for are as they were before the first build; but it may also
find what the first build has left in its way, most of all if it looks for its fragment in
the directory that it builds into.

* `Builder.supplies`: what a build has to save;
* `Builder.lookedUp`: the files that it looks for;
* `Builder.build_again`: the builds that are repeated;
* `Builder.origin_of_shared_directory`: one that is not.
-/

namespace InstallerKit.Fragment.Builder

open InstallerKit.Action FileSystem Staging

/-- The files that a build looks for. -/
def lookedUp (b : Builder) (t : Target) : List Path :=
  b.fragment.toList.flatMap (Resource.lookedUp · t.path) ++
    (b.resources.getD []).flatMap fun e => e.item.lookedUp (e.dest t.directory)

/-- What a build has to save: the fragment, and the resources, each with the files as what
    comes before leaves them. -/
def supplies (b : Builder) (t : Target) (fs : FileSystem) :
    Except Fault (Origin × List UInt8) × List (Except Fault (Option (List UInt8))) :=
  (b.supply fs t.path,
    match b.supply fs t.path with
    | .ok (_, content) =>
      Staging.supplies t.directory (b.resources.getD []) (fs.withFile t.path content)
    | .error _ => [])

/-- The files that a build saves to. -/
def places (b : Builder) (t : Target) (fs : FileSystem) : List (List String) :=
  (t.path :: (b.resources.getD []).map (Entry.dest t.directory)).map fs.goal

/-- A builder makes a result again, and leaves everything as it is. -/
def Repeats (b : Builder) (r : Result) (σ : Session) : Prop :=
  ∃ σ', b.build σ = .ok (b, r) σ' ∧ ∀ place, σ'.files.entry place = σ.files.entry place

section

variable {b : Builder} {t : Target} {origin : Origin} {content : List UInt8} {steps : List Step}
  {fs fs' : FileSystem}

/-- Whether a builder has built before makes no difference. -/
theorem hasBuilt_built_iff {t₀ : Target} (h : b.requireTarget = .ok t₀) :
    ({ b with state := .built } : Builder).HasBuilt t origin content steps fs fs' ↔
      b.HasBuilt t origin content steps fs fs' := by
  have htarget : ({ b with state := .built } : Builder).requireTarget = .ok t ↔
      b.requireTarget = .ok t := by
    rw [requireTarget_eq_ok_iff] at h
    simp [requireTarget_eq_ok_iff, h]
  exact ⟨fun h => ⟨htarget.1 h.target, h.supply, h.fragmentEvent, h.files, h.entries,
    h.stagedEvent⟩, fun h => ⟨htarget.2 h.target, h.supply, h.fragmentEvent, h.files, h.entries,
    h.stagedEvent⟩⟩

theorem supply_of_lookUp {path : Path} {v : Origin × List UInt8}
    (hlookUp : ∀ p ∈ b.fragment.toList.flatMap (Resource.lookedUp · path),
      fs'.lookUp p = fs.lookUp p)
    (h : b.supply fs path = .ok v) : b.supply fs' path = .ok v := by
  have htaken {s? : Option Resource.Supply} (h : b.taken? fs path = .ok s?) :
      b.taken? fs' path = .ok s? := by
    rw [taken?] at h ⊢
    cases hfragment : b.fragment with
    | none => rwa [hfragment] at h
    | some r =>
      rw [hfragment] at h hlookUp
      exact Resource.supply_of_lookUp (by simpa using hlookUp) h
  rw [supply] at h
  split at h
  · cases h
  · next s hs => rwa [supply, htaken hs]
  · next hs => rwa [supply, htaken hs]

namespace HasBuilt

theorem exists_supplies_eq (h : b.HasBuilt t origin content steps fs fs') :
    ∃ made, fs.Saves t.path content made ∧ HaveStaged t.directory made steps fs' ∧
      b.supplies t fs =
        (.ok (origin, content), Staging.supplies t.directory (steps.map Step.entry) made) := by
  obtain ⟨made, hsaves, hstaged⟩ := h.files
  refine ⟨made, hsaves, hstaged, ?_⟩
  rw [supplies, h.supply, h.entries]
  dsimp only
  rw [hsaves.eq]

/-- What has the same to save is built again, and leaves everything as it is. -/
theorem again (h : b.HasBuilt t origin content steps fs fs')
    (heq : b.supplies t fs' = b.supplies t fs) :
    ∃ fs'', b.HasBuilt t origin content steps fs' fs'' ∧
      ∀ place, fs''.entry place = fs'.entry place := by
  obtain ⟨made, hsaves, hstaged, hsupplies⟩ := h.exists_supplies_eq
  obtain ⟨hmade, hshape⟩ := hsaves.again hstaged.keeps content
  rw [hsupplies] at heq
  have hsupply : b.supply fs' t.path = .ok (origin, content) := congrArg Prod.fst heq
  have hrest := congrArg Prod.snd heq
  rw [supplies, hsupply, ← h.entries] at hrest
  obtain ⟨fs'', hstaged', hshape'⟩ := hstaged.again hshape.keeps hrest
  refine ⟨fs'', ⟨h.target, hsupply, h.fragmentEvent, ⟨_, hmade, hstaged'⟩, h.entries,
    h.stagedEvent⟩, fun place => (hshape.trans hshape').entry_eq ?_⟩
  -- What the first build has written is written again, and nothing else is.
  rw [hstaged'.content?, hmade.content?, (hsaves.keeps.trans hstaged.keeps).goal, hstaged.content?,
    hsaves.content?]
  cases (steps.filterMap Step.output?).reverse.lookup place with
  | some last => rfl
  | none =>
    by_cases hplace : place = fs.goal t.path <;> simp [hplace]

/-- A build finds the same to save if the files that it looks for are as they were. -/
theorem supplies_of_lookUp (h : b.HasBuilt t origin content steps fs fs')
    (hlookUp : ∀ p ∈ b.lookedUp t, fs'.lookUp p = fs.lookUp p) :
    b.supplies t fs' = b.supplies t fs := by
  obtain ⟨made, hsaves, hstaged, hsupplies⟩ := h.exists_supplies_eq
  rw [lookedUp, List.forall_mem_append] at hlookUp
  have hsupply := supply_of_lookUp hlookUp.1 h.supply
  obtain ⟨hmade, hshape⟩ := hsaves.again hstaged.keeps content
  have habreast : Abreast fs fs' made (fs'.withFile t.path content) := by
    refine (Abreast.start (hsaves.keeps.trans hstaged.keeps)).writes hsaves.keeps hstaged.keeps
      hshape (fun place => if place = fs.goal t.path then some content else none)
      (fun place => ?_) fun place => ?_
    · rw [hsaves.content?]
      split <;> rfl
    · rw [hmade.content?, (hsaves.keeps.trans hstaged.keeps).goal]
      split <;> rfl
  rw [hsupplies, supplies, hsupply, ← h.entries]
  dsimp only
  rw [hstaged.supplies_of_lookUp habreast (.refl fs') ?_]
  rw [h.entries]
  exact fun e he p hp => hlookUp.2 p (List.mem_flatMap.2 ⟨e, he, hp⟩)

/-- If no two files are saved to the same place, what a build makes shows what it has had to
    save. -/
theorem supplies_eq_of_outcome (h : b.HasBuilt t origin content steps fs fs')
    (hapart : (b.places t fs).Nodup) {content' : List UInt8} {steps' : List Step}
    {fs'' : FileSystem} (h' : b.HasBuilt t origin content' steps' fs' fs'')
    (hpaths : savedPaths t.directory steps' = savedPaths t.directory steps)
    (hentry : ∀ place, fs''.entry place = fs'.entry place) :
    b.supplies t fs' = b.supplies t fs := by
  obtain ⟨made, hsaves, hstaged, hsupplies⟩ := h.exists_supplies_eq
  obtain ⟨made', hsaves', hstaged', hsupplies'⟩ := h'.exists_supplies_eq
  have hkeeps := hsaves.keeps.trans hstaged.keeps
  have hkeeps' := hsaves'.keeps.trans hstaged'.keeps
  rw [places, List.map_cons, List.nodup_cons, ← h.entries] at hapart
  have hfragment (p : Path) (hp : p ∈ savedPaths t.directory steps) :
      fs.goal p ≠ fs.goal t.path := by
    intro hgoal
    exact hapart.1 (hgoal ▸ List.mem_map_of_mem (mem_of_mem_savedPaths hp))
  have hcontent : content' = content := by
    have hread := find_eq_ok_iff.1 (read_eq_ok_iff.1 (h.read_path hfragment))
    have hread' := find_eq_ok_iff.1 (read_eq_ok_iff.1 (h'.read_path fun p hp => by
      rw [hkeeps.goal, hkeeps.goal]
      exact hfragment p (hpaths ▸ hp)))
    have heq := hread'.2
    rw [hkeeps'.goal, hentry, hread.2] at heq
    cases heq
    rfl
  rw [hsupplies, hsupplies', hcontent, hstaged.supplies_eq_of_outcome hstaged' ?_ hsaves'.keeps
    (h.entries.trans h'.entries.symm) hpaths.symm hentry]
  rw [show made.goal = fs.goal from funext hsaves.keeps.goal]
  exact hapart.2

end HasBuilt

end

/-- A build that is repeated makes the same result again and leaves everything as it is if it
    has the same to save as the first time; which it has if the files that it looks for are
    as they were. If no two files are saved to the same place, it does not unless it has. -/
theorem build_again {b b' : Builder} {r : Result} {σ σ' : Session}
    (h : b.build σ = .ok (b', r) σ') :
    ∃ t, b.requireTarget = .ok t ∧
      ((∀ p ∈ b.lookedUp t, σ'.files.lookUp p = σ.files.lookUp p) →
        b.supplies t σ'.files = b.supplies t σ.files) ∧
      (b.supplies t σ'.files = b.supplies t σ.files → b'.Repeats r σ') ∧
      ((b.places t σ.files).Nodup → b'.Repeats r σ' →
        b.supplies t σ'.files = b.supplies t σ.files) := by
  obtain ⟨t, origin, content, steps, hbuilt, hanswer⟩ := b.hasEffect_build.of_ok h
  obtain ⟨rfl, rfl⟩ := Prod.mk.inj hanswer
  refine ⟨t, hbuilt.target, hbuilt.supplies_of_lookUp, fun heq => ?_, fun hapart hrepeats => ?_⟩
  · obtain ⟨files, hagain, hentry⟩ := hbuilt.again heq
    obtain ⟨σ'', hbuild, rfl⟩ := (hasEffect_build { b with state := .built }).exists_ok
      ⟨t, origin, content, steps, (hasBuilt_built_iff hbuilt.target).2 hagain, rfl⟩
    exact ⟨σ'', hbuild, hentry⟩
  · obtain ⟨σ'', hbuild, hentry⟩ := hrepeats
    obtain ⟨t', origin', content', steps', hagain, hanswer'⟩ :=
      (hasEffect_build { b with state := .built }).of_ok hbuild
    have hagain := (hasBuilt_built_iff hbuilt.target).1 hagain
    obtain rfl := Except.ok.inj (hbuilt.target.symm.trans hagain.target)
    obtain ⟨-, hresult⟩ := Prod.mk.inj hanswer'
    obtain ⟨-, rfl, hpaths⟩ := Result.mk.inj hresult
    exact hbuilt.supplies_eq_of_outcome hapart hagain hpaths hentry

/-- A fragment that is taken from another directory is taken again. -/
theorem build_again_with_override :
    let σ : Session := ⟨(FileSystem.withDirectory ["work"]).place "res/main.wxs" [104, 105], [], []⟩
    let target : Target := ⟨.ofString "out", "main.wxs", by decide⟩
    let item : Item := .resource { Resource.empty with content := some (.bytes [1]) }
    let b := (((Builder.new [] none).configure σ.files target
      (some (.ofString "res"))).1.addResource item "note.txt").1
    ∃ b' r σ', b.build σ = .ok (b', r) σ' ∧ r.origin = .override ∧
      r.resources = [.ofString "/work/out/note.txt"] ∧ b'.Repeats r σ' := by
  intro σ target item b
  let taken := Path.ofString "res/main.wxs"
  have hyields : b.yields σ (fun _ r σ' => r.origin = .override ∧
      r.resources = [.ofString "/work/out/note.txt"] ∧
      (σ'.files.find taken).toOption = some (.file [104, 105])) = true := by
    decide +kernel
  have hbefore : (σ.files.find taken).toOption = some (.file [104, 105]) := by decide +kernel
  have hlookedUp : b.requireTarget.toOption.map b.lookedUp = some [taken] := by decide +kernel
  obtain ⟨b', r, σ', h, hr⟩ := exists_of_yields hyields
  obtain ⟨horigin, hresources, hafter⟩ := of_decide_eq_true hr
  obtain ⟨t, ht, hsame, hrepeats, -⟩ := build_again h
  refine ⟨b', r, σ', h, horigin, hresources, hrepeats (hsame fun p hp => ?_)⟩
  rw [ht] at hlookedUp
  rw [Option.some.inj hlookedUp, List.mem_singleton] at hp
  rw [hp, lookUp_eq_some_iff.2 (toOption_eq_some_iff.1 hbefore),
    lookUp_eq_some_iff.2 (toOption_eq_some_iff.1 hafter)]

/-- A builder that looks for its fragment where it builds takes the one that it has generated
    when it builds again. -/
theorem origin_of_shared_directory :
    let σ : Session := ⟨.withDirectory ["work"], [], []⟩
    let target : Target := ⟨.ofString "out", "main.wxs", by decide⟩
    let b := ((Builder.new [] none).configure σ.files target (some (.ofString "out"))).1
    ∃ b' r σ' b'' r' σ'', b.build σ = .ok (b', r) σ' ∧ r.origin = .generated ∧
      b'.build σ' = .ok (b'', r') σ'' ∧ r'.origin = .override := by
  intro σ target b
  have hyields : b.yields σ (fun b' r σ' => r.origin = .generated ∧
      b'.yields σ' (fun _ r' _ => r'.origin = .override) = true) = true := by
    decide +kernel
  obtain ⟨b', r, σ', h, hr⟩ := exists_of_yields hyields
  obtain ⟨horigin, hagain⟩ := of_decide_eq_true hr
  obtain ⟨b'', r', σ'', h', hr'⟩ := exists_of_yields hagain
  exact ⟨b', r, σ', b'', r', σ'', h, horigin, h', of_decide_eq_true hr'⟩

end InstallerKit.Fragment.Builder
