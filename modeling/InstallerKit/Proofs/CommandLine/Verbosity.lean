import InstallerKit.CommandLine.Run
import InstallerKit.Proofs.CommandLine.Alike
import InstallerKit.Proofs.Compiler
import InstallerKit.Proofs.Console.Message
import InstallerKit.Proofs.Fragment.Delivery
import InstallerKit.Proofs.Fragment.Target

/-!
# Builds at every verbosity

How verbose a command line is should matter for what it shows, and for nothing else. It reaches
into a build only as far as events are shown: a build whose events can be shown leaves the same
files with the same exit code at every verbosity. The commands that are shown in the end can
always be made.

There is an exception. The event of a fragment is shown with tags, so brackets in its path may
make it one that cannot be shown. A build that shows events then fails with the fragment written
and no resource staged; one that does not, goes on.

* `BuildRequest.build_eq_announce`: where the verbosity comes in;
* `BuildRequest.commandLines_of_build`: the commands after a build;
* `effect_run_of_sayAlike`: runs of command lines that say the same.
-/

namespace InstallerKit.CommandLine

open InstallerKit.Action Console Fragment

/-- What a run leaves: its exit code, and the files. -/
def Outcome.effect (o : Outcome) : Nat × FileSystem :=
  (o.ending.exitCode, o.files)

namespace BuildRequest

variable {b : BuildFile} {s s' : Settings} {e : Event} {σ σ' : Session}

/-! ### Events -/

theorem delivery_of_isShowable (h : IsShowable e) (s : Settings) : delivery s e = none := by
  obtain ⟨lines, hlines⟩ := h s
  rw [delivery, hlines]

/-- Where events are shown at all, they are shown alike. -/
theorem delivery_congr (h : s.verbosity < 1 ↔ s'.verbosity < 1) (e : Event) :
    delivery s e = delivery s' e := by
  simp only [delivery, Console.eventLines, h]

theorem exists_delivery_of_not_isShowable (h : ¬ IsShowable e) (hs : ¬ s.verbosity < 1) :
    ∃ f, delivery s e = some f := by
  cases hdelivery : delivery s e with
  | some f => exact ⟨f, rfl⟩
  | none =>
    refine absurd (fun s' => ?_) h
    by_cases hs' : s'.verbosity < 1
    · exact ⟨[], by rw [Console.eventLines, if_pos hs']⟩
    · rw [delivery_congr (iff_of_false hs hs'), delivery] at hdelivery
      split at hdelivery
      · next lines hlines => exact ⟨lines, hlines⟩
      · cases hdelivery

/-! ### Builds -/

/-- Writes the fragment that a build file describes, but does not deliver its event. Answers the
    builder, the target and where the fragment comes from. -/
def announce (b : BuildFile) : Action (Builder × Target × Origin) := do
  let builder ← Action.lift id (b.toBuilder (← get).files fun _ => none)
  let _ ← builder.logFeatures
  let (t, origin) ← builder.announce
  return (builder, t, origin)

theorem lift_map_bind {α β γ : Type} (x : Except Problem α) (g : α → β) (f : β → Action γ) :
    Action.lift id (x.map g) >>= f = Action.lift id x >>= fun a => f (g a) := by
  cases x with
  | ok a => rfl
  | error p => rfl

/-- The settings come in when the event of the fragment is delivered, and not earlier. -/
theorem build_eq_announce (b : BuildFile) (s : Settings) :
    build b s = announce b >>= fun x => (x.1.delivering (delivery s)).complete x.2.1 x.2.2 := by
  rw [build, announce, bind_assoc]
  congr 1
  funext σ
  -- Nothing asks for the delivery before, so the builder may as well get it last.
  rw [BuildFile.toBuilder_eq_map, lift_map_bind, bind_assoc]
  congr 1
  funext builder
  rw [bind_assoc]
  refine congrArg (builder.logFeatures >>= ·) (funext fun _ => ?_)
  rw [Builder.build_eq_announce, Builder.announce_delivering, bind_assoc]
  rfl

theorem delivery_stagedEvent (s : Settings) (paths : List Path) :
    delivery s (Builder.stagedEvent paths) = none :=
  delivery_of_isShowable (isShowable_stagedEvent paths) s

theorem ending_build_of_undelivered {builder : Builder} {t : Target} {origin : Origin} {f : Fault}
    (h : announce b σ = .ok (builder, t, origin) σ')
    (hs : delivery s (builder.fragmentEvent t.path origin) = some f) :
    ending (build b s σ) = (false, σ'.files) := by
  rw [build_eq_announce, bind_of_ok h]
  exact Builder.ending_complete_of_undelivered (builder.delivering (delivery s)) hs σ'

/-- Two settings make a difference for a build only if they do for the event of its fragment. -/
theorem ending_build_congr
    (h : ∀ builder t origin σ', announce b σ = .ok (builder, t, origin) σ' →
      delivery s (builder.fragmentEvent t.path origin) =
        delivery s' (builder.fragmentEvent t.path origin)) :
    ending (build b s σ) = ending (build b s' σ) := by
  cases hannounce : announce b σ with
  | error f σ' =>
    rw [build_eq_announce, build_eq_announce, bind_of_error hannounce, bind_of_error hannounce]
  | ok x σ' =>
    obtain ⟨builder, t, origin⟩ := x
    have hdelivery := h builder t origin σ' hannounce
    cases hs : delivery s (builder.fragmentEvent t.path origin) with
    | some f =>
      rw [ending_build_of_undelivered hannounce hs,
        ending_build_of_undelivered hannounce (hdelivery ▸ hs)]
    | none =>
      rw [build_eq_announce, build_eq_announce, bind_of_ok hannounce, bind_of_ok hannounce,
        builder.ending_complete_of_delivered hs (delivery_stagedEvent s),
        builder.ending_complete_of_delivered (hdelivery ▸ hs) (delivery_stagedEvent s')]

/-- What has been built has a name, so there is a command that compiles it. -/
theorem commandLines_of_build {builder : Builder} {result : Fragment.Result}
    (h : build b s σ = .ok (builder, result) σ') : (commandLines builder result).2 = none := by
  obtain ⟨_, _, -, h⟩ := bind_eq_ok_iff.1 h
  obtain ⟨before, _, -, h⟩ := bind_eq_ok_iff.1 h
  obtain ⟨_, _, -, h⟩ := bind_eq_ok_iff.1 h
  obtain ⟨t, origin, content, steps, hbuilt, houtcome⟩ := before.hasEffect_build.of_ok h
  obtain ⟨rfl, rfl⟩ := Prod.mk.inj houtcome
  have htarget : ({ before with state := .built } : Builder).requireTarget = .ok t :=
    Builder.requireTarget_eq_ok_iff.2
      ⟨by simp, (Builder.requireTarget_eq_ok_iff.1 hbuilt.target).2⟩
  have hplan : ∀ source ∈ (Compiler.Plan.new.add t.path before.vars.values).sources,
      source.path.name ≠ "" := by
    intro source hsource
    obtain rfl := List.mem_singleton.1 hsource
    exact t.name_path ▸ t.fileName_ne_empty
  rw [commandLines, Builder.configurePlan, htarget]
  dsimp only [bind, Except.bind, pure, Except.pure]
  rw [Compiler.Plan.commands_eq _ _ hplan]
  rfl

/-! ### Runs -/

variable {fs : FileSystem} {r : BuildRequest} {f : Fault} {output : String} {errors : List String}

theorem effect_unexpected :
    (Outcome.unexpected s f output errors fs).effect = (1, fs) := by
  rw [Outcome.unexpected]
  split <;> rfl

theorem effect_failedBuild :
    (Outcome.failedBuild s f output errors fs).effect = (1, fs) := by
  rw [Outcome.failedBuild]
  split
  · exact effect_unexpected
  · rfl

theorem effect_run_of_unloaded (h : BuildFile.load fs r.buildFile = .error f) :
    (r.run fs).effect = (1, fs) := by
  rw [run, h]
  dsimp only
  split
  · rfl
  · exact effect_unexpected

/-- The exit code tells whether the build has ended well. -/
theorem effect_run_of_loaded (h : BuildFile.load fs r.buildFile = .ok b) :
    (r.run fs).effect =
      let left := ending (build (r.apply b) r.settings ⟨fs, [], []⟩)
      (if left.1 then 0 else 1, left.2) := by
  rw [run, h]
  dsimp only [EStateM.run]
  cases hbuild : build (r.apply b) r.settings ⟨fs, [], []⟩ with
  | error f t => exact effect_failedBuild
  | ok x t =>
    have hsummary : (summaryLines r.settings x.1 x.2).2 = none := by
      rw [summaryLines]
      split
      · rfl
      · exact commandLines_of_build hbuild
    dsimp only
    rw [hsummary]
    rfl

/-- The event of the fragment of a request, and the files by then; none if the request does not
    come so far. -/
def announced (r : BuildRequest) (fs : FileSystem) : Option (Event × FileSystem) :=
  match BuildFile.load fs r.buildFile with
  | .error _ => none
  | .ok b =>
    match announce (r.apply b) ⟨fs, [], []⟩ with
    | .ok (builder, t, origin) σ => some (builder.fragmentEvent t.path origin, σ.files)
    | .error _ _ => none

theorem announced_of_announce {builder : Builder} {t : Target} {origin : Origin}
    (hload : BuildFile.load fs r.buildFile = .ok b)
    (h : announce (r.apply b) ⟨fs, [], []⟩ = .ok (builder, t, origin) σ) :
    r.announced fs = some (builder.fragmentEvent t.path origin, σ.files) := by
  rw [announced, hload]
  dsimp only
  rw [h]

theorem announce_of_announced {files : FileSystem} (h : r.announced fs = some (e, files)) :
    ∃ b builder t origin σ, BuildFile.load fs r.buildFile = .ok b ∧
      announce (r.apply b) ⟨fs, [], []⟩ = .ok (builder, t, origin) σ ∧
      builder.fragmentEvent t.path origin = e ∧ σ.files = files := by
  rw [announced] at h
  split at h
  · cases h
  · next b hload =>
    split at h
    · next builder t origin σ hannounce =>
      obtain ⟨rfl, rfl⟩ := Prod.mk.inj (Option.some.inj h)
      exact ⟨b, builder, t, origin, σ, hload, hannounce, rfl, rfl⟩
    · cases h

/-- Two settings make a difference for a request only if they do for its event. -/
theorem effect_run_congr (r : BuildRequest) (s : Settings)
    (h : ∀ e files, r.announced fs = some (e, files) → delivery r.settings e = delivery s e) :
    (r.run fs).effect = ((r.withSettings s).run fs).effect := by
  cases hload : BuildFile.load fs r.buildFile with
  | error f =>
    exact (effect_run_of_unloaded hload).trans
      (effect_run_of_unloaded (r := r.withSettings s) hload).symm
  | ok b =>
    have hending : ending (build (r.apply b) r.settings ⟨fs, [], []⟩) =
        ending (build (r.apply b) s ⟨fs, [], []⟩) :=
      ending_build_congr fun builder t origin σ' hannounce =>
        h _ _ (announced_of_announce hload hannounce)
    rw [effect_run_of_loaded hload, hending]
    exact (effect_run_of_loaded (r := r.withSettings s) hload).symm

/-- Without its event, a build fails once the fragment is written. -/
theorem effect_run_of_undelivered {files : FileSystem} (h : r.announced fs = some (e, files))
    (hs : delivery r.settings e = some f) : (r.run fs).effect = (1, files) := by
  obtain ⟨b, builder, t, origin, σ, hload, hannounce, rfl, rfl⟩ := announce_of_announced h
  rw [effect_run_of_loaded hload, ending_build_of_undelivered hannounce hs]
  rfl

theorem isShowable_of_announced {files : FileSystem} (h : r.announced fs = some (e, files))
    (he : '[' ∉ e.pathText.toList) : IsShowable e := by
  obtain ⟨b, builder, t, origin, σ, -, -, rfl, -⟩ := announce_of_announced h
  exact isShowable_fragmentEvent builder t.path origin he

end BuildRequest

/-! ### Command lines -/

open Request BuildRequest

variable {words words' : List String} {fs files : FileSystem} {e : Event}

/-- The event of the fragment that the words after the command of a build ask for, and the files
    by then; none if it does not come so far. -/
def announced (fs : FileSystem) (words : List String) : Option (Event × FileSystem) :=
  match ofWords fs ("build" :: words) with
  | .ok (.build r) => r.announced fs
  | _ => none

theorem announced_of_ofWords {r : BuildRequest}
    (h : ofWords fs ("build" :: words) = .ok (.build r)) : announced fs words = r.announced fs := by
  rw [announced, h]

theorem exists_of_announced (h : announced fs words = some (e, files)) :
    ∃ r, ofWords fs ("build" :: words) = .ok (.build r) ∧ r.announced fs = some (e, files) := by
  rw [announced] at h
  split at h
  · next r hr => exact ⟨r, hr, h⟩
  · cases h

theorem run_of_ofWords {input : List UInt8} {q : Request}
    (h : ofWords fs ("build" :: words) = .ok q) :
    run fs input ("build" :: words) = q.run fs input := by
  rw [run, h]

/-- Requests that are the same at the same settings are the same, or builds. -/
theorem eq_or_build_of_withSettings {s : Settings} {q q' : Request}
    (h : q.withSettings s = q'.withSettings s) :
    q = q' ∨ ∃ r s', q = .build r ∧ q' = .build (r.withSettings s') := by
  cases q with
  | build r =>
    cases q' with
    | build r' =>
      obtain ⟨hfile, houtput, hresource, -⟩ := BuildRequest.mk.inj (Request.build.inj h)
      refine .inr ⟨r, r'.settings, rfl, ?_⟩
      rw [BuildRequest.withSettings, hfile, houtput, hresource]
    | help | completion | escape => cases h
  | help | completion | escape =>
    cases q' with
    | build r' => cases h
    | help | completion | escape => exact .inl h

/-- Command lines that say the same but for their verbosity leave the same files with the same
    exit code, if none of them shows events, or all do, or the event of the fragment can be shown.
    If that cannot be shown, a build that shows events fails, and leaves the fragment without the
    resources. An event can be shown if there is no opening bracket in its path; that of the
    resources can always be, and so can the commands that compile what has been built. -/
theorem effect_run_of_sayAlike (h : SayAlike words words') (fs : FileSystem)
    (input : List UInt8) :
    ((verbosity words = 0 ↔ verbosity words' = 0) ∨
        (∀ e files, announced fs words = some (e, files) → IsShowable e) →
      (run fs input ("build" :: words)).effect = (run fs input ("build" :: words')).effect) ∧
    (∀ e files, announced fs words = some (e, files) →
      (¬ IsShowable e → verbosity words ≠ 0 →
        (run fs input ("build" :: words)).effect = (1, files)) ∧
      ('[' ∉ e.pathText.toList → IsShowable e)) ∧
    (∀ paths, IsShowable (Builder.stagedEvent paths)) ∧
    ∀ b s σ σ' builder result, build b s σ = .ok (builder, result) σ' →
      (commandLines builder result).2 = none := by
  refine ⟨fun hshown => ?_, fun e files he => ?_, isShowable_stagedEvent,
    fun b s σ σ' builder result => commandLines_of_build⟩
  · have hsame := ofWords_sayAlike h fs .standard
    cases hwords : ofWords fs ("build" :: words) with
    | error m =>
      cases hwords' : ofWords fs ("build" :: words') with
      | error m' =>
        rw [hwords, hwords'] at hsame
        obtain rfl := Except.error.inj hsame
        rw [run, run, hwords, hwords']
      | ok q' => rw [hwords, hwords'] at hsame; cases hsame
    | ok q =>
      cases hwords' : ofWords fs ("build" :: words') with
      | error m' => rw [hwords, hwords'] at hsame; cases hsame
      | ok q' =>
        rw [hwords, hwords'] at hsame
        rw [run_of_ofWords hwords, run_of_ofWords hwords']
        obtain rfl | ⟨r, s, rfl, rfl⟩ := eq_or_build_of_withSettings (Except.ok.inj hsame)
        · rfl
        · refine effect_run_congr r s fun e files he => ?_
          rcases hshown with hverbosity | hshown
          · refine delivery_congr ?_ e
            have hs : s.verbosity = verbosity words' := verbosity_of_ofWords hwords'
            rw [verbosity_of_ofWords hwords, hs]
            omega
          · have hshowable := hshown e files (announced_of_ofWords hwords ▸ he)
            rw [delivery_of_isShowable hshowable, delivery_of_isShowable hshowable]
  · obtain ⟨r, hr, hannounced⟩ := exists_of_announced he
    refine ⟨fun hshown hverbosity => ?_, isShowable_of_announced hannounced⟩
    have hs : ¬ r.settings.verbosity < 1 := by
      rw [verbosity_of_ofWords hr]
      omega
    obtain ⟨f, hf⟩ := exists_delivery_of_not_isShowable hshown hs
    rw [run_of_ofWords hr]
    exact effect_run_of_undelivered hannounced hf

/-- A build without brackets leaves the same, however verbose it is. -/
theorem effect_run_of_three_verbose_options :
    let fs := (FileSystem.withDirectory ["work"]).place "wixsmith.toml"
      (Text.Utf8.encode "[[resources]]\nname = 'note.txt'\ntext = 'hi'".toList)
    let quiet := ["wixsmith.toml"]
    let verbose := ["wixsmith.toml", "-vv", "--verbose"]
    SayAlike quiet verbose ∧ verbosity verbose = 3 ∧
      (run fs [] ("build" :: quiet)).ending.exitCode = 0 ∧
      (run fs [] ("build" :: quiet)).effect = (run fs [] ("build" :: verbose)).effect := by
  intro fs quiet verbose
  have halike : SayAlike quiet verbose := by
    rw [SayAlike]
    decide +kernel
  have hquiet : (run fs [] ("build" :: quiet)).ending.exitCode = 0 ∧
      (announced fs quiet).all (fun x => '[' ∉ x.1.pathText.toList) = true := by
    decide +kernel
  refine ⟨halike, by decide +kernel, hquiet.1, ?_⟩
  obtain ⟨hsame, hshowable, -, -⟩ := effect_run_of_sayAlike halike fs []
  refine hsame (.inr fun e files he => (hshowable e files he).2 ?_)
  rw [he] at hquiet
  exact of_decide_eq_true hquiet.2

/-- Brackets in the path of a fragment may close a tag that is not open. Then a build that shows
    events fails, and stages no resource, where one that does not show them ends well. -/
theorem effect_run_of_brackets :
    let fs := (FileSystem.withDirectory ["work"]).place "wixsmith.toml" (Text.Utf8.encode
      "output_dir = 'a['\noutput_file = 'b].wxs'\n[[resources]]\nname = 'r'\ntext = 'x'".toList)
    let left (words : List String) :=
      let o := run fs [] ("build" :: words)
      (o.ending.exitCode, (o.files.isFile (.ofString "/work/a[/r")).toOption)
    SayAlike ["-v", "wixsmith.toml"] ["wixsmith.toml"] ∧
      left ["wixsmith.toml"] = (0, some true) ∧
      left ["-v", "wixsmith.toml"] = (1, some false) :=
  ⟨sayAlike_replicate 1 ["wixsmith.toml"], by decide +kernel, by decide +kernel⟩

end InstallerKit.CommandLine
