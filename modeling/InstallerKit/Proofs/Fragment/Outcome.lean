import InstallerKit.Proofs.Fragment.Failure
import InstallerKit.Proofs.Resource.Staging

/-!
# What builds do

A build saves a fragment, which is taken from the resource directory or rendered, and then
the resources, next to it. So the file of the fragment is the fragment, unless a resource has
been saved over it.

* `Builder.supply`: the fragment that there is to save, and where it comes from;
* `Builder.HasBuilt`: what a build does that does not fail;
* `Builder.hasEffect_build`: builds do that.
-/

namespace InstallerKit

open InstallerKit.Action FileSystem

/-! ### Saving documents -/

theorem Document.encode_standardEncoding (text : List Char) :
    encode standardEncoding text = .ok (Text.Utf8.encode text) := by
  have hname : Text.Encoding.ofName? standardEncoding = some .utf8 := by decide +kernel
  rw [encode, hname]
  rfl

theorem Document.hasEffect_save (path : Path) (text : List Char) :
    HasEffect (save path standardEncoding text) fun fs _ fs' =>
      fs.Saves path (Text.Utf8.encode text) fs' := by
  have hnul : standardEncoding.toList.contains '\x00' = false := by decide +kernel
  rw [save, hnul, encode_standardEncoding]
  refine (hasEffect_bind (hasEffect_makeDirectories path.parent) fun _ =>
    hasEffect_bind (hasEffect_change fun fs => fs.write path []) fun _ =>
      hasEffect_bind (hasEffect_pure (Text.Utf8.encode text)) fun content =>
        hasEffect_change fun fs => fs.write path content).congr fun fs _ fs' => ?_
  constructor
  · rintro ⟨-, made, hmade, -, emptied, hempty, _, _, ⟨rfl, rfl⟩, hwrite⟩
    exact ⟨made, hmade, write_write_iff.1 ⟨emptied, hempty, hwrite⟩⟩
  · rintro ⟨made, hmade, hwrite⟩
    obtain ⟨emptied, hempty, hwrite⟩ :
        ∃ emptied, made.write path [] = .ok emptied ∧ emptied.write path _ = .ok fs' :=
      write_write_iff.2 hwrite
    exact ⟨(), made, hmade, (), emptied, hempty, _, emptied, ⟨rfl, rfl⟩, hwrite⟩

namespace Fragment

open Staging

theorem hasEffect_createSource (path : Path) (content : Markup.Script) :
    HasEffect (createSource path content) fun fs _ fs' =>
      ∃ text, Document.render (some Document.standardIndent) Document.standardEncoding
          (source content) = .ok text ∧
        fs.Saves path (Text.Utf8.encode text) fs' := by
  rw [createSource, Document.create]
  cases Document.render (some Document.standardIndent) Document.standardEncoding
    (source content) with
  | error f => exact (hasEffect_throw f).congr fun fs _ fs' => by simp
  | ok text =>
    refine (hasEffect_bind (Document.hasEffect_save path text) fun _ =>
      hasEffect_log _ _).congr fun fs _ fs' => ?_
    constructor
    · rintro ⟨-, _, hsaves, rfl⟩
      exact ⟨text, rfl, hsaves⟩
    · rintro ⟨_, ⟨⟩, hsaves⟩
      exact ⟨(), fs', hsaves, rfl⟩

namespace Builder

/-! ### Fragments -/

/-- The fragment that there is to take, if any. -/
def taken? (b : Builder) (fs : FileSystem) (path : Path) : Except Fault (Option Resource.Supply) :=
  match b.fragment with
  | none => .ok none
  | some r => r.supply fs path

/-- The fragment that there is to save under a path, and where it comes from. -/
def supply (b : Builder) (fs : FileSystem) (path : Path) : Except Fault (Origin × List UInt8) :=
  match b.taken? fs path with
  | .error f => .error f
  | .ok (some s) => .ok (.override, s.content)
  | .ok none => b.render.map fun text => (.generated, Text.Utf8.encode text)

/-- The event of a fragment. -/
def fragmentEvent (b : Builder) (path : Path) : Origin → Event
  | .override => ⟨"fragment_overridden", .ofList [("path", .text path.text)]⟩
  | .generated =>
    ⟨"fragment_generated",
      .ofList [("path", .text path.text), ("fragments", .integer b.activeProducers.length)]⟩

/-- The event of resources. -/
def stagedEvent (paths : List Path) : Event :=
  ⟨"resources_staged", .ofList [("paths", .list (paths.map fun p => .text p.text))]⟩

theorem hasEffect_emit (b : Builder) (e : Event) :
    HasEffect (b.emit e) fun fs _ fs' => b.delivery e = none ∧ fs = fs' := by
  rw [Builder.emit]
  cases b.delivery e with
  | none =>
    exact (hasEffect_bind (hasEffect_note e) fun _ => hasEffect_pure ()).congr fun _ _ _ => by
      simp
  | some f =>
    exact (hasEffect_bind (hasEffect_note e) fun _ => hasEffect_throw f).congr fun _ _ _ => by
      simp

theorem hasEffect_resolveOrigin (b : Builder) (path : Path) :
    HasEffect (b.resolveOrigin path) fun fs origin fs' =>
      b.taken? fs path = .ok none ∧ origin = .generated ∧ fs = fs' ∨
      ∃ s, b.taken? fs path = .ok (some s) ∧ origin = .override ∧ fs.Saves path s.content fs' := by
  rw [resolveOrigin]
  cases hfragment : b.fragment with
  | none =>
    refine (hasEffect_pure Origin.generated).congr fun fs origin fs' => ?_
    simp [taken?, hfragment, eq_comm]
  | some r =>
    refine (hasEffect_bind_option (r.hasEffect_save path) (hasEffect_pure Origin.generated)
      fun _ => hasEffect_pure Origin.override).congr fun fs origin fs' => ?_
    rw [show b.taken? fs path = r.supply fs path by rw [taken?, hfragment]]
    constructor
    · rintro (⟨_, ⟨hnone, -, rfl⟩ | ⟨_, _, -, ⟨⟩, -⟩, rfl, rfl⟩ |
        ⟨_, _, ⟨-, ⟨⟩, -⟩ | ⟨s, arrived, hsome, -, hsaves⟩, rfl, rfl⟩)
      · exact .inl ⟨hnone, rfl, rfl⟩
      · exact .inr ⟨_, hsome, rfl, hsaves⟩
    · rintro (⟨hnone, rfl, rfl⟩ | ⟨s, hsome, rfl, hsaves⟩)
      · exact .inl ⟨fs, .inl ⟨hnone, rfl, rfl⟩, rfl, rfl⟩
      · exact .inr ⟨s.source, fs', .inr ⟨s.source, s.content, hsome, rfl, hsaves⟩, rfl, rfl⟩

/-- Writing the fragment saves the one that there is. -/
theorem hasEffect_writeFragment (b : Builder) (path : Path) :
    HasEffect (b.writeFragment path) fun fs origin fs' =>
      ∃ content, b.supply fs path = .ok (origin, content) ∧
        b.delivery (b.fragmentEvent path origin) = none ∧ fs.Saves path content fs' := by
  have hrest (from? : Origin) : HasEffect
      (match from? with
        | .override => do
          log .debug ("Fragment " ++ path.text ++ " supplied by the resource directory")
          b.emit (b.fragmentEvent path .override)
          return Origin.override
        | .generated => do
          createSource path (Producer.fragments b.element b.activeProducers)
          b.emit (b.fragmentEvent path .generated)
          return .generated)
      fun fs origin fs' => from? = origin ∧ b.delivery (b.fragmentEvent path origin) = none ∧
        match from? with
        | .override => fs = fs'
        | .generated => ∃ text, b.render = .ok text ∧ fs.Saves path (Text.Utf8.encode text) fs' := by
    cases from? with
    | override =>
      refine (hasEffect_bind (hasEffect_log _ _) fun _ => hasEffect_bind (b.hasEffect_emit _)
        fun _ => hasEffect_pure Origin.override).congr fun fs origin fs' => ?_
      constructor
      · rintro ⟨-, _, rfl, -, _, ⟨hdelivery, rfl⟩, rfl, rfl⟩
        exact ⟨rfl, hdelivery, rfl⟩
      · rintro ⟨rfl, hdelivery, rfl⟩
        exact ⟨(), fs, rfl, (), fs, ⟨hdelivery, rfl⟩, rfl, rfl⟩
    | generated =>
      refine (hasEffect_bind (hasEffect_createSource path _) fun _ =>
        hasEffect_bind (b.hasEffect_emit _) fun _ =>
          hasEffect_pure Origin.generated).congr fun fs origin fs' => ?_
      constructor
      · rintro ⟨-, _, hcreated, -, _, ⟨hdelivery, rfl⟩, rfl, rfl⟩
        exact ⟨rfl, hdelivery, hcreated⟩
      · rintro ⟨rfl, hdelivery, hcreated⟩
        exact ⟨(), fs', hcreated, (), fs', ⟨hdelivery, rfl⟩, rfl, rfl⟩
  refine (hasEffect_bind (b.hasEffect_resolveOrigin path) hrest).congr fun fs origin fs' => ?_
  constructor
  · rintro ⟨_, _, ⟨hnone, rfl, rfl⟩ | ⟨s, hsome, rfl, hsaves⟩, rfl, hdelivery, hcreated⟩
    · obtain ⟨text, hrender, hsaves⟩ := hcreated
      exact ⟨_, by rw [supply, hnone, hrender]; rfl, hdelivery, hsaves⟩
    · obtain rfl := hcreated
      exact ⟨s.content, by rw [supply, hsome], hdelivery, hsaves⟩
  · rintro ⟨content, hsupply, hdelivery, hsaves⟩
    rw [supply] at hsupply
    split at hsupply
    · cases hsupply
    · next s hsome =>
      obtain ⟨rfl, rfl⟩ := Prod.mk.inj (Except.ok.inj hsupply)
      exact ⟨_, fs', .inr ⟨s, hsome, rfl, hsaves⟩, rfl, hdelivery, rfl⟩
    · next hnone =>
      obtain ⟨text, hrender, ⟨⟩⟩ := except_map_eq_ok_iff.1 hsupply
      exact ⟨_, fs, .inl ⟨hnone, rfl, rfl⟩, rfl, hdelivery, text, hrender, hsaves⟩

/-! ### Builds -/

theorem hasEffect_stage (b : Builder) (directory : Path) :
    HasEffect (b.stage directory) fun fs paths fs' =>
      ∃ steps, HaveStaged directory fs steps fs' ∧ steps.map Step.entry = b.resources.getD [] ∧
        savedPaths directory steps = paths ∧
        (b.resources.isSome → b.delivery (stagedEvent paths) = none) := by
  rw [stage]
  cases b.resources with
  | none =>
    refine (hasEffect_pure []).congr fun fs paths fs' => ?_
    constructor
    · rintro ⟨rfl, rfl⟩
      exact ⟨[], .nil fs, rfl, rfl, by simp⟩
    · rintro ⟨steps, hstaged, hentries, rfl, -⟩
      obtain rfl := List.map_eq_nil_iff.1 hentries
      cases hstaged
      exact ⟨rfl, rfl⟩
  | some entries =>
    refine (hasEffect_bind (hasEffect_materialize directory entries) fun paths =>
      hasEffect_bind (b.hasEffect_emit (stagedEvent paths)) fun _ =>
        hasEffect_pure paths).congr fun fs paths fs' => ?_
    constructor
    · rintro ⟨_, _, ⟨steps, hstaged, hentries, hpaths⟩, -, _, ⟨hdelivery, rfl⟩, rfl, rfl⟩
      exact ⟨steps, hstaged, hentries, hpaths, fun _ => hdelivery⟩
    · rintro ⟨steps, hstaged, hentries, hpaths, hdelivery⟩
      exact ⟨paths, fs', ⟨steps, hstaged, hentries, hpaths⟩, (), fs', ⟨hdelivery rfl, rfl⟩, rfl,
        rfl⟩

/-- A builder has built: it has saved the fragment that there was, and then the resources. -/
structure HasBuilt (b : Builder) (t : Target) (origin : Origin) (content : List UInt8)
    (steps : List Step) (fs fs' : FileSystem) : Prop where
  target : b.requireTarget = .ok t
  supply : b.supply fs t.path = .ok (origin, content)
  fragmentEvent : b.delivery (b.fragmentEvent t.path origin) = none
  files : ∃ made, fs.Saves t.path content made ∧ HaveStaged t.directory made steps fs'
  entries : steps.map Step.entry = b.resources.getD []
  stagedEvent : b.resources.isSome →
    b.delivery (stagedEvent (savedPaths t.directory steps)) = none

/-- What a builder answers that has built. -/
def outcome (b : Builder) (t : Target) (origin : Origin) (steps : List Step) : Builder × Result :=
  ({ b with state := .built }, ⟨t.path, origin, savedPaths t.directory steps⟩)

theorem hasEffect_build (b : Builder) :
    HasEffect b.build fun fs answer fs' =>
      ∃ t origin content steps, b.HasBuilt t origin content steps fs fs' ∧
        b.outcome t origin steps = answer := by
  rw [build_eq]
  refine (hasEffect_bind (hasEffect_lift id b.requireTarget) fun t =>
    hasEffect_bind (b.hasEffect_writeFragment t.path) fun origin =>
      hasEffect_bind (b.hasEffect_stage t.directory) fun paths =>
        hasEffect_pure (({ b with state := .built }, ⟨t.path, origin, paths⟩) :
          Builder × Result)).congr fun fs answer fs' => ?_
  constructor
  · rintro ⟨t, _, ⟨htarget, rfl⟩, origin, made, ⟨content, hsupply, hevent, hsaves⟩, _, _,
      ⟨steps, hstaged, hentries, rfl, hstagedEvent⟩, rfl, rfl⟩
    exact ⟨t, origin, content, steps,
      ⟨htarget, hsupply, hevent, ⟨made, hsaves, hstaged⟩, hentries, hstagedEvent⟩, rfl⟩
  · rintro ⟨t, origin, content, steps, h, rfl⟩
    obtain ⟨made, hsaves, hstaged⟩ := h.files
    exact ⟨t, fs, ⟨h.target, rfl⟩, origin, made, ⟨content, h.supply, h.fragmentEvent, hsaves⟩,
      _, fs', ⟨steps, hstaged, h.entries, rfl, h.stagedEvent⟩, rfl, rfl⟩

/-! ### The fragment of a build -/

section Fragment

variable {b b' : Builder} {r : Result} {σ σ' : Session}

/-- No producer has a part in a build that takes its fragment. -/
theorem build_of_override (h : b.build σ = .ok (b', r) σ') (hr : r.origin = .override)
    (producers : List Producer) (fixedProducers : Option (List Producer)) :
    ({ b with producers, fixedProducers } : Builder).build σ =
      .ok ({ b' with producers, fixedProducers }, r) σ' := by
  rw [build_eq] at h ⊢
  obtain ⟨t, σ₁, htarget, h⟩ := bind_eq_ok_iff.1 h
  obtain ⟨origin, σ₂, hwrite, h⟩ := bind_eq_ok_iff.1 h
  obtain ⟨paths, σ₃, hstage, h⟩ := bind_eq_ok_iff.1 h
  obtain ⟨⟨⟩, rfl⟩ := pure_eq_ok_iff.1 h
  obtain rfl : origin = .override := hr
  obtain ⟨from?, σ₄, hfrom, hwrite'⟩ := bind_eq_ok_iff.1 hwrite
  cases from? with
  | generated =>
    obtain ⟨_, _, -, hrest⟩ := bind_eq_ok_iff.1 hwrite'
    obtain ⟨_, _, -, hrest⟩ := bind_eq_ok_iff.1 hrest
    cases (pure_eq_ok_iff.1 hrest).1
  | override =>
    have hwriteAs : ({ b with producers, fixedProducers } : Builder).writeFragment t.path σ₁ =
        .ok .override σ₂ :=
      (bind_of_ok hfrom _).trans hwrite'
    refine (bind_of_ok htarget _).trans ((bind_of_ok hwriteAs _).trans ?_)
    exact (bind_of_ok hstage _).trans rfl

/-- The fragment that there is to take is the file of its name in the resource directory. -/
theorem IsConfigured.taken?_eq_some_iff {t : Target} {directory : Option Path}
    (h : b.IsConfigured t directory) {fs : FileSystem} {dest : Path} {s : Resource.Supply} :
    b.taken? fs dest = .ok (some s) ↔ s.source = .directory ∧
      ∃ d, directory = some d ∧ fs.read (d.child t.fileName) = .ok s.content := by
  have hsupply : b.taken? fs dest =
      (fragmentResource directory t.fileName).supplyFrom fs dest [.directory] := by
    rw [taken?, h.fragment]
    rfl
  rw [hsupply, Resource.supplyFrom, Resource.found, Resource.candidate?]
  cases directory with
  | none => simp [fragmentResource, Resource.supplyFrom]
  | some d =>
    simp only [fragmentResource, Option.map_some, nameOr_fileName, read_eq_ok_iff,
      ← lookUp_eq_some_iff, Option.some.injEq, exists_eq_left']
    cases fs.lookUp (d.child t.fileName) with
    | error e => simp
    | ok content? =>
      cases content? with
      | none => simp [Resource.supplyFrom]
      | some content =>
        obtain ⟨source, arrived⟩ := s
        simp [Except.map, Resource.finish, Resource.empty, Table.empty,
          Table.isEmpty, eq_comm]

/-- A file that no resource is saved over is the fragment. -/
theorem HasBuilt.read_path {t : Target} {origin : Origin} {content : List UInt8}
    {steps : List Step} {fs fs' : FileSystem} (h : b.HasBuilt t origin content steps fs fs')
    (hapart : ∀ p ∈ savedPaths t.directory steps, fs.goal p ≠ fs.goal t.path) :
    fs'.read t.path = .ok content := by
  obtain ⟨made, hsaves, hstaged⟩ := h.files
  obtain ⟨hleads, hentry⟩ := find_eq_ok_iff.1 hsaves.find
  have hkept : fs'.content? (made.goal t.path) = made.content? (made.goal t.path) := by
    refine Decidable.byContradiction fun hne => ?_
    obtain ⟨s, hs, hsaved, hplace⟩ := hstaged.exists_step hne
    rw [hsaves.keeps.goal, hsaves.keeps.goal] at hplace
    exact hapart _ (List.mem_map_of_mem (List.mem_filter.2 ⟨hs, hsaved⟩)) hplace.symm
  rw [content?_eq_some_iff.2 hentry, content?_eq_some_iff, ← hstaged.keeps.goal] at hkept
  exact read_eq_ok_iff.2 (find_eq_ok_iff.2 ⟨hstaged.keeps.leads hleads, hkept⟩)

theorem IsConfigured.hasOverride_iff {t : Target} {directory : Option Path}
    (h : b.IsConfigured t directory) {fs : FileSystem} :
    b.HasOverride fs ↔
      ∃ d content, directory = some d ∧ fs.read (d.child t.fileName) = .ok content := by
  simp only [read_eq_ok_iff]
  constructor
  · rintro ⟨r, d, t', content, hr, hd, ht, hfind⟩
    obtain rfl := Option.some.inj (h.fragment.symm.trans hr)
    obtain rfl := Option.some.inj (h.target.symm.trans ht)
    exact ⟨d, content, hd, hfind⟩
  · rintro ⟨d, content, rfl, hfind⟩
    exact ⟨_, d, t, content, h.fragment, rfl, h.target, hfind⟩

/-- What a build has saved as the fragment is what the file of the fragment's name in the
    resource directory was, if there was one, whatever the producers are; and else what they
    write. It is the file of the fragment in the end, unless a resource has been saved over
    it. -/
theorem fragment_of_build (hb : b.Reachable) (h : b.build σ = .ok (b', r) σ') :
    ∃ t content, b.target = some t ∧ r.path = t.path ∧
      (r.origin = .override ↔ b.HasOverride σ.files) ∧
      (r.origin = .override →
        (∃ directory, b.fragment.bind Resource.directory = some directory ∧
          σ.files.read (directory.child t.fileName) = .ok content) ∧
        ∀ producers fixedProducers,
          ({ b with producers, fixedProducers } : Builder).build σ =
            .ok ({ b' with producers, fixedProducers }, r) σ') ∧
      (r.origin = .generated → ∃ text, b.render = .ok text ∧ Text.Utf8.encode text = content) ∧
      ((∀ p ∈ r.resources, σ.files.goal p ≠ σ.files.goal r.path) →
        σ'.files.read r.path = .ok content) := by
  obtain ⟨t, origin, content, steps, hbuilt, hanswer⟩ := b.hasEffect_build.of_ok h
  obtain ⟨t', directory, hconfigured⟩ := reachable_invariant hb (build_builder h).2
  obtain ⟨-, rfl⟩ := Prod.mk.inj hanswer
  have htarget := (requireTarget_eq_ok_iff.1 hbuilt.target).2
  obtain rfl := Option.some.inj (hconfigured.target.symm.trans htarget)
  have hsupply := hbuilt.supply
  rw [supply] at hsupply
  refine ⟨t', content, htarget, rfl, ?_⟩
  split at hsupply
  · cases hsupply
  · next s htaken =>
    obtain ⟨rfl, rfl⟩ := Prod.mk.inj (Except.ok.inj hsupply)
    obtain ⟨-, d, rfl, hread⟩ := hconfigured.taken?_eq_some_iff.1 htaken
    refine ⟨⟨fun _ => hconfigured.hasOverride_iff.2 ⟨d, s.content, rfl, hread⟩, fun _ => rfl⟩,
      fun hr => ⟨⟨d, ?_, hread⟩, fun producers fixed => ?_⟩, nofun, hbuilt.read_path⟩
    · rw [hconfigured.fragment]
      rfl
    · exact build_of_override h rfl producers fixed
  · next htaken =>
    obtain ⟨text, hrender, hgenerated⟩ := except_map_eq_ok_iff.1 hsupply
    obtain ⟨rfl, rfl⟩ := Prod.mk.inj hgenerated
    refine ⟨⟨nofun, fun hoverride => ?_⟩, nofun, fun _ => ⟨text, hrender, rfl⟩, hbuilt.read_path⟩
    obtain ⟨d, content, rfl, hread⟩ := hconfigured.hasOverride_iff.1 hoverride
    have hsome : b.taken? σ.files t'.path = .ok (some ⟨.directory, content⟩) :=
      hconfigured.taken?_eq_some_iff.2 ⟨rfl, d, rfl, hread⟩
    cases htaken.symm.trans hsome

end Fragment

/-- Whether a build answers something that has a property. -/
def yields (b : Builder) (σ : Session) (p : Builder → Result → Session → Bool) : Bool :=
  match b.build σ with
  | .ok (b', r) σ' => p b' r σ'
  | .error _ _ => false

theorem exists_of_yields {b : Builder} {σ : Session} {p : Builder → Result → Session → Bool}
    (h : b.yields σ p = true) : ∃ b' r σ', b.build σ = .ok (b', r) σ' ∧ p b' r σ' = true := by
  rw [yields] at h
  split at h
  · next b' r σ' hb => exact ⟨b', r, σ', hb, h⟩
  · cases h

/-- A fragment is taken from the resource directory, and a resource is saved next to it. -/
theorem fragment_of_build_with_override :
    let σ : Session := ⟨(FileSystem.withDirectory ["work"]).place "res/main.wxs" [104, 105], [], []⟩
    let target : Target := ⟨.ofString "out", "main.wxs", by decide⟩
    let item : Staging.Item := .resource { Resource.empty with content := some (.bytes [1]) }
    let b := (((Builder.new [.idle .null] none).configure σ.files target
      (some (.ofString "res"))).1.addResource item "note.txt").1
    b.Reachable ∧ ∃ b' r σ', b.build σ = .ok (b', r) σ' ∧ r.origin = .override ∧
      r.resources = [.ofString "/work/out/note.txt"] ∧ b.HasOverride σ.files ∧
      σ'.files.read (.ofString "/work/out/main.wxs") = .ok [104, 105] := by
  intro σ target item b
  have hb : b.Reachable :=
    .addResource (.configure (.fresh rfl) σ.files target (some (.ofString "res"))) item "note.txt"
  have hyields : b.yields σ (fun _ r _ => r.origin = .override ∧
      r.resources = [.ofString "/work/out/note.txt"] ∧ r.path = .ofString "/work/out/main.wxs" ∧
      (∀ p ∈ r.resources, σ.files.goal p ≠ σ.files.goal r.path)) = true := by
    decide +kernel
  have hread (d : Path) (fileName : String)
      (hd : b.fragment.bind Resource.directory = some d)
      (ht : b.target.map Target.fileName = some fileName) :
      σ.files.read (d.child fileName) = .ok [104, 105] := by
    obtain rfl : Path.ofString "res" = d := Option.some.inj hd
    obtain rfl : "main.wxs" = fileName := Option.some.inj ht
    exact toOption_eq_some_iff.1 (by decide +kernel)
  obtain ⟨b', r, σ', h, hr⟩ := exists_of_yields hyields
  obtain ⟨horigin, hresources, hpath, hapart⟩ := of_decide_eq_true hr
  obtain ⟨t, content, ht, -, hiff, hoverride, -, hfile⟩ := fragment_of_build hb h
  obtain ⟨⟨d, hd, hcontent⟩, -⟩ := hoverride horigin
  rw [hread d t.fileName hd (by rw [ht]; rfl), Except.ok.injEq] at hcontent
  refine ⟨hb, b', r, σ', h, horigin, hresources, hiff.1 horigin, ?_⟩
  rw [← hpath, hfile hapart, hcontent]

/-- A resource that has the name of the fragment is saved over it. -/
theorem read_path_of_same_target :
    let σ : Session := ⟨.withDirectory ["work"], [], []⟩
    let target : Target := ⟨.ofString "out", "main.wxs", by decide⟩
    let item : Staging.Item := .resource { Resource.empty with content := some (.bytes [104, 105]) }
    let configured := ((Builder.new [] none).configure σ.files target none).1
    let b := (configured.addResource item "main.wxs").1
    (configured.addResource item "main.wxs").2.isNone ∧
      ∃ b' r σ' text, b.build σ = .ok (b', r) σ' ∧ r.origin = .generated ∧
        b.render = .ok text ∧ σ'.files.read r.path = .ok [104, 105] ∧
        Text.Utf8.encode text ≠ [104, 105] := by
  intro σ target item configured b
  have hrender : b.render.toOption.any (Text.Utf8.encode · ≠ [104, 105]) = true := by
    decide +kernel
  have hyields : b.yields σ (fun _ r σ' => r.origin = .generated ∧
      (σ'.files.read r.path).toOption = some [104, 105]) = true := by
    decide +kernel
  obtain ⟨b', r, σ', h, hr⟩ := exists_of_yields hyields
  obtain ⟨horigin, hread⟩ := of_decide_eq_true hr
  cases htext : b.render with
  | error f => simp [htext, Except.toOption] at hrender
  | ok text =>
    rw [htext] at hrender
    exact ⟨rfl, b', r, σ', text, h, horigin, rfl, toOption_eq_some_iff.1 hread,
      of_decide_eq_true hrender⟩

end Builder

end Fragment

end InstallerKit
