import InstallerKit.Proofs.Compiler
import InstallerKit.Proofs.Fragment.Reset
import Mathlib.Data.List.DropRight

/-!
# What a plan is told

What a builder tells a plan follows from what has been done with the builder: the target is
the one that it has been configured with last, and the variables are those that have been set
since then. Whatever else is done, builds and all that fails, plays no part. What a plan has
been told stays as it is.

* `source?`: the source that a builder tells a plan of, read off what has been done with it;
* `recorded`: the sources that a plan is told of along the way;
* `Workspace.topic_step`, `Workspace.topic_after`: what one operation, and what many of them,
  make of the target and the variables;
* `Workspace.plan_after_history`: what a plan has been told.
-/

namespace InstallerKit.Fragment

open Compiler (Plan Source)

/-! ### Histories -/

/-- The target that an operation gives a builder, if it configures it. -/
def Operation.target? (files : FileSystem) : Operation → Option Target
  | .configure target _ => (target.resolve files).toOption
  | _ => none

/-- The settings that have been made since the variables were last forgotten. -/
def settings (history : List Operation) : List (String × String) :=
  (history.rtakeWhile fun op => !op.isConfigure).filterMap Operation.setting?

/-- The target that has been given last. -/
def lastTarget? (files : FileSystem) (history : List Operation) : Option Target :=
  (history.filterMap (Operation.target? files)).getLast?

/-- The table of settings. There is none without any. -/
def table? (settings : List (String × String)) : Option (Table String) :=
  if settings = [] then none else some (.ofList settings)

/-- The source that a builder tells a plan of after some operations. -/
def source? (files : FileSystem) (history : List Operation) : Option Source :=
  (lastTarget? files history).map fun t => ⟨t.path, table? (settings history)⟩

/-- The source that an operation tells a plan of after others. -/
def told? (files : FileSystem) (past : List Operation) : Operation → Option Source
  | .configurePlan => source? files past
  | _ => none

/-- The sources that operations tell a plan of after others. -/
def recorded (files : FileSystem) : (past : List Operation) → List Operation → List Source
  | _, [] => []
  | past, op :: rest => (told? files past op).toList ++ recorded files (past ++ [op]) rest

section Histories

variable {files files' : FileSystem} {history : List Operation} {op : Operation}

theorem settings_append_singleton (history : List Operation) (op : Operation) :
    settings (history ++ [op]) =
      if op.isConfigure then [] else settings history ++ op.setting?.toList := by
  rw [settings, settings, List.rtakeWhile_concat]
  cases op.isConfigure with
  | true => rfl
  | false =>
    rw [Bool.not_false, if_pos rfl, List.filterMap_append]
    cases h : op.setting? <;> simp [h]

theorem lastTarget?_append_singleton (files : FileSystem) (history : List Operation)
    (op : Operation) :
    lastTarget? files (history ++ [op]) = (op.target? files).or (lastTarget? files history) := by
  rw [lastTarget?, lastTarget?, List.filterMap_append, List.getLast?_append]
  cases h : op.target? files <;> simp [h]

theorem lastTarget?_eq_none_iff :
    lastTarget? files history = none ↔ ∀ op ∈ history, op.target? files = none := by
  rw [lastTarget?, List.getLast?_eq_none_iff, List.filterMap_eq_nil_iff]

theorem Operation.target?_of_not_isConfigure (h : op.isConfigure = false) :
    op.target? files = none := by
  cases op with
  | configure target directory => cases h
  | _ => rfl

/-- A directory is resolved alike for as long as the working directory stays the same. -/
theorem Operation.target?_congr (h : files.Keeps files') (op : Operation) :
    op.target? files' = op.target? files := by
  cases op with
  | configure target directory => rw [target?, target?, target.resolve_congr h]
  | _ => rfl

end Histories

/-! ### Targets and variables -/

/-- What a builder tells a plan of: the target and the variables. -/
def Builder.topic (b : Builder) : Option Target × Variables :=
  (b.requireTarget.toOption, b.vars)

/-- A build leaves what has been configured as it is. -/
theorem Builder.topic_built {b : Builder} (h : b.state ≠ .unconfigured) :
    ({ b with state := .built } : Builder).topic = b.topic := by
  rw [topic, topic, requireTarget, requireTarget]
  cases hs : b.state with
  | unconfigured => exact absurd hs h
  | configured => cases b.target <;> rfl
  | built => cases b.target <;> rfl

namespace Workspace

variable {w : Workspace} {files : FileSystem} {history : List Operation}

/-- Only a target that can be resolved is given to a builder, and only settings that are taken
    are added to its variables. -/
theorem topic_step {past : List (String × String)} (h : w.builder.vars = .ofSettings past)
    (op : Operation) :
    (w.step op).1.builder.topic = ((op.target? w.files).or w.builder.topic.1,
      .ofSettings (if op.isConfigure then [] else past ++ op.setting?.toList)) := by
  have hsame : w.builder.topic = (w.builder.topic.1, .ofSettings (past ++ [])) := by
    rw [List.append_nil, ← h]
    rfl
  have hset (s : String × String) :
      ({ w.builder with vars := ⟨w.builder.vars.table.set s.1 s.2⟩ } : Builder).topic =
        (w.builder.topic.1, .ofSettings (past ++ [s])) := by
    rw [Variables.ofSettings_append_singleton, ← h]
    rfl
  -- The target and the variables are all that counts of what the builder has become.
  have hbecomes := becomes_step w op
  generalize (w.step op).1.builder = b at hbecomes
  cases hbecomes with
  | addProducer | setVersion | addResource => exact hsame
  | configure hresolve =>
    rw [Operation.target?, hresolve]
    rfl
  | forget hresolve =>
    rw [Operation.target?, hresolve]
    rfl
  | defineVariable hs =>
    rw [hs]
    exact hset _
  | setVariable hs =>
    rw [hs]
    exact hset _
  | build hstate => exact (Builder.topic_built hstate).trans hsame
  | same _ _ hsetting hconfigure =>
    rw [hsetting, hconfigure, Operation.target?_of_not_isConfigure hconfigure]
    exact hsame

/-- What a builder tells a plan of after some operations. -/
theorem topic_after (k : Builder.Kind) (producers : List Producer) (version : Option Version)
    (plan : Plan) (files : FileSystem) (history : List Operation) :
    ((⟨.ofKind k producers version, plan, files⟩ : Workspace).after history).builder.topic =
      (lastTarget? files history, .ofSettings (settings history)) := by
  -- The last operation decides what counts of those before it, so the induction takes it off.
  induction history using List.reverseRecOn with
  | nil => rfl
  | append_singleton history op ih =>
    have hkeeps :=
      keeps_after (⟨.ofKind k producers version, plan, files⟩ : Workspace) history
    rw [after_append]
    refine (topic_step (congrArg Prod.snd ih) op).trans ?_
    rw [ih, Operation.target?_congr hkeeps, lastTarget?_append_singleton,
      settings_append_singleton]

/-! ### What succeeds -/

theorem answer_configure_iff {target : Target} {directory : Option Path} :
    (w.step (.configure target directory)).2.answer = .done ↔
      ((Operation.configure target directory).target? w.files).isSome := by
  rw [Operation.target?]
  cases hresolve : target.resolve w.files with
  | ok resolved => simp [step_configure_of_ok hresolve, Except.toOption]
  | error e => simp [step_configure_of_error hresolve, Except.toOption]

theorem answer_setVariable_iff {name value : Datum} :
    (w.change (w.builder.setVariable name value)).2.answer = .done ↔
      (Variables.setting? name value).isSome := by
  have hresult := congrArg Option.isSome (w.builder.toOption_setVariable name value)
  rw [Option.isSome_map] at hresult
  rw [← hresult]
  cases w.builder.setVariable name value <;> simp [change, answer, Except.toOption]

/-! ### Plans -/

section Run

variable (k : Builder.Kind) (producers : List Producer) (version : Option Version) (plan : Plan)
  (files : FileSystem)

theorem requireTarget_after (history : List Operation) :
    ((⟨.ofKind k producers version, plan, files⟩ : Workspace).after history).builder.requireTarget =
      match lastTarget? files history with
      | some t => .ok t
      | none => .error .unconfigured := by
  have htarget := congrArg Prod.fst (topic_after k producers version plan files history)
  change Except.toOption _ = lastTarget? files history at htarget
  rw [← htarget]
  cases hrequire : Builder.requireTarget _ with
  | ok t => rfl
  | error e =>
    rw [Builder.requireTarget] at hrequire
    split at hrequire <;> cases hrequire <;> rfl

theorem values_after (history : List Operation) :
    ((⟨.ofKind k producers version, plan, files⟩ : Workspace).after history).builder.vars.values =
      table? (settings history) := by
  have hvars := congrArg Prod.snd (topic_after k producers version plan files history)
  change Builder.vars _ = .ofSettings (settings history) at hvars
  rw [hvars, Variables.values_ofSettings, table?]

theorem told_after (past : List Operation) (op : Operation) :
    ((⟨.ofKind k producers version, plan, files⟩ : Workspace).after past).told op =
      (told? files past op).toList := by
  cases op with
  | configurePlan =>
    rw [told, requireTarget_after, values_after, told?, source?]
    cases lastTarget? files past <;> rfl
  | _ => rfl

/-- A plan is told of a source just if there is one. -/
theorem step_configurePlan_after (history : List Operation) :
    let w := (⟨.ofKind k producers version, plan, files⟩ : Workspace).after history
    w.step .configurePlan =
      match source? files history with
      | some s => ({ w with plan := w.plan.extend [s] }, ⟨.done, [], []⟩)
      | none => (w, ⟨.refused (.of .unconfigured), [], []⟩) := by
  intro w
  have hrequire : w.builder.requireTarget = _ :=
    requireTarget_after k producers version plan files history
  have hvalues : w.builder.vars.values = _ := values_after k producers version plan files history
  rw [source?, ← hvalues]
  cases hlast : lastTarget? files history with
  | some t =>
    rw [hlast] at hrequire
    exact step_configurePlan_of_ok hrequire
  | none =>
    rw [hlast] at hrequire
    exact step_configurePlan_of_error hrequire

theorem toldAll_after (past ops : List Operation) :
    ((⟨.ofKind k producers version, plan, files⟩ : Workspace).after past).toldAll ops =
      recorded files past ops := by
  induction ops generalizing past with
  | nil => rfl
  | cons op ops ih =>
    rw [toldAll, recorded, told_after, ← ih (past ++ [op]), after_append]
    rfl

end Run

theorem name_of_mem_recorded {past ops : List Operation} {s : Source}
    (h : s ∈ recorded files past ops) : s.path.name ≠ "" := by
  induction ops generalizing past with
  | nil => cases h
  | cons op ops ih =>
    rcases List.mem_append.1 h with h | h
    · cases op with
      | configurePlan =>
        obtain ⟨t, -, rfl⟩ := Option.map_eq_some_iff.1 (Option.mem_toList.1 h)
        rw [t.name_path]
        exact t.fileName_ne_empty
      | _ => cases h
    · exact ih h

/-- A builder tells a plan of the target that it has been given last, and of the variables that
    have been set since then; as long as it has not been given any, it refuses. What a plan has
    been told stays, and it has a command for each source, which ends with a definition for each
    of the variables. -/
theorem plan_after_history (k : Builder.Kind) (producers : List Producer)
    (version : Option Version) (candle arch : String) (extensions : List String)
    (files : FileSystem) (history : List Operation) :
    let start : Workspace :=
      ⟨.ofKind k producers version, ⟨candle, arch, extensions, []⟩, files⟩
    let w := start.after history
    ((∀ op ∈ history, op.target? files = none) →
      w.step .configurePlan = (w, ⟨.refused (.of .unconfigured), [], []⟩)) ∧
    (∀ t, lastTarget? files history = some t →
      let s : Source := ⟨t.directory.child t.fileName, table? (settings history)⟩
      w.step .configurePlan = ({ w with plan := w.plan.extend [s] }, ⟨.done, [], []⟩)) ∧
    ((∀ op ∈ history, op.target? files = none) ↔ lastTarget? files history = none) ∧
    -- A table has the names in the order of their first settings, with their last values.
    (∀ t, table? (settings history) = some t →
      t.keys = ((settings history).map Prod.fst).eraseDups ∧
        ∀ name, t.get? name = (settings history).reverse.lookup name) ∧
    -- The targets and the settings are those that have been taken.
    (∀ target directory, (w.step (.configure target directory)).2.answer = .done ↔
      ((Operation.configure target directory).target? files).isSome) ∧
    (∀ name, (w.step (.defineVariable name)).2.answer = .done ↔
      (Operation.defineVariable name).setting?.isSome) ∧
    (∀ name value, (w.step (.setVariable name value)).2.answer = .done ↔
      (Operation.setVariable name value).setting?.isSome) ∧
    w.plan = ⟨candle, arch, extensions, recorded files [] history⟩ ∧
    (∀ more, (w.after more).plan = w.plan.extend (recorded files history more)) ∧
    ∀ directory, w.plan.commands directory =
      ((recorded files [] history).map fun s => w.plan.invocation directory s ++
        (s.vars.elim [] Table.entries).map fun (name, value) => "-d" ++ name ++ "=" ++ value,
        none) := by
  intro start w
  have hstep := step_configurePlan_after k producers version start.plan files history
  have hplan : w.plan = ⟨candle, arch, extensions, recorded files [] history⟩ := by
    refine (plan_after start history).trans ?_
    exact congrArg start.plan.extend (toldAll_after k producers version start.plan files [] history)
  refine ⟨fun hnone => ?_, fun t ht => ?_, lastTarget?_eq_none_iff.symm, fun t ht => ?_,
    fun target directory => ?_, fun name => answer_setVariable_iff,
    fun name value => answer_setVariable_iff, hplan, fun more => ?_, fun directory => ?_⟩
  · rwa [source?, lastTarget?_eq_none_iff.2 hnone] at hstep
  · rwa [source?, ht] at hstep
  · rw [table?] at ht
    split at ht
    · cases ht
    · obtain rfl := Option.some.inj ht
      exact ⟨Table.keys_ofList _, Table.get?_ofList _⟩
  · rw [← Operation.target?_congr (keeps_after start history)]
    exact answer_configure_iff
  · refine (plan_after w more).trans ?_
    exact congrArg w.plan.extend (toldAll_after k producers version start.plan files history more)
  · have hnames : ∀ s ∈ w.plan.sources, s.path.name ≠ "" := by
      rw [hplan]
      exact fun s hs => name_of_mem_recorded hs
    rw [Plan.commands_eq w.plan directory hnames, hplan]
    simp only [Source.definitions_eq]

/-- A variable that was set before the builder was configured is gone, one that is set twice
    stays in its place, and what is no name is not set. -/
theorem plan_after_history_of_two_targets :
    let first : Target := ⟨.ofString "out", "main.wxs", by decide⟩
    let other : Target := ⟨.ofString "out/../lib", "other.wxs", by decide⟩
    let history : List Operation := [.configurePlan, .defineVariable (.text "Early"),
      .configure first none, .setVariable (.text "Product") (.text "Demo"),
      .defineVariable (.text "Debug"), .build, .setVariable (.text "Product") (.text "Other"),
      .setVariable (.text "") (.text "x"), .configurePlan, .configure other none]
    let start : Workspace := ⟨Builder.new [] none, .new, .withDirectory ["work"]⟩
    let w := start.after history
    let source : Source :=
      ⟨.ofString "/work/out/main.wxs", some (.ofList [("Product", "Other"), ("Debug", "yes")])⟩
    w.plan = Plan.new.extend [source] ∧
      (w.step .configurePlan).1.plan =
        Plan.new.extend [source, ⟨.ofString "/work/lib/other.wxs", none⟩] ∧
      w.plan.commands (.ofString "obj") = ([["candle.exe", "-nologo", "/work/out/main.wxs",
        "-ext", "WixUtilExtension", "-arch", "x64", "-out", "obj/main.wixobj",
        "-dProduct=Other", "-dDebug=yes"]], none) := by
  intro first other history start w source
  have hlast : lastTarget? start.files history =
      some ⟨.ofString "/work/lib", "other.wxs", by decide⟩ := by
    decide +kernel
  have hrecorded : recorded start.files [] history = [source] := by decide +kernel
  let later : Source := ⟨(Path.ofString "/work/lib").child "other.wxs", table? (settings history)⟩
  have hlater : later = ⟨.ofString "/work/lib/other.wxs", none⟩ := by decide +kernel
  obtain ⟨-, htold, -, -, -, -, -, hbefore, -, hcommands⟩ :=
    plan_after_history ⟨none, fragmentElement, fun _ => none⟩ [] none "candle.exe" "x64"
      Plan.defaultExtensions start.files history
  have hplan : w.plan = Plan.new.extend [source] := by
    rw [hrecorded] at hbefore
    exact hbefore
  have hstep : w.step .configurePlan =
      ({ w with plan := w.plan.extend [later] }, ⟨.done, [], []⟩) := by
    specialize htold _ hlast
    dsimp only at htold
    exact htold
  have hcommand : w.plan.commands (.ofString "obj") =
      ([w.plan.invocation (.ofString "obj") source ++ ["-dProduct=Other", "-dDebug=yes"]],
        none) := by
    rw [hrecorded] at hcommands
    exact hcommands (.ofString "obj")
  refine ⟨hplan, ?_, ?_⟩
  · rw [hstep, hplan, hlater]
    rfl
  · rw [hcommand, hplan]
    decide +kernel

end Workspace

end InstallerKit.Fragment
