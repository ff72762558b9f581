import InstallerKit.CommandLine.Request

/-!
# Command lines that say the same

The option that makes a build verbose takes no value, and all that is read off it is how often
it is given. So two command lines of a build that say the same without that option, as often
and wherever it stands in them, ask for the same: for the same build, at another verbosity, or
for help; or they are wrong in the same way.

* `SayAlike`: two command lines say the same, but for their verbosity;
* `sayAlike_replicate`: verbose options before a command line;
* `ofWords_sayAlike`: command lines that say the same ask for the same.
-/

namespace InstallerKit.CommandLine

/-! ### Lists -/

section Lists

variable {α β ε : Type}

/-- Whether repetitions are left out before or after a choice does not matter. -/
theorem filter_eraseDups [DecidableEq α] (p : α → Bool) (l : List α) :
    l.eraseDups.filter p = (l.filter p).eraseDups := by
  match l with
  | [] => rfl
  | a :: rest =>
    rw [List.eraseDups_cons, List.filter_cons, List.filter_cons,
      filter_eraseDups p (rest.filter fun b => !b == a), List.filter_filter]
    cases hp : p a with
    | true =>
      rw [if_pos rfl, if_pos rfl, List.eraseDups_cons, List.filter_filter]
      simp only [Bool.and_comm]
    | false =>
      -- What is left out with `a` is not chosen anyway.
      rw [if_neg Bool.false_ne_true, if_neg Bool.false_ne_true]
      congr 1
      refine List.filter_congr fun b _ => ?_
      by_cases hb : b = a
      · simp [hb, hp]
      · simp [hb]
termination_by l.length
decreasing_by exact Nat.lt_succ_of_le (List.length_filter_le _ _)

theorem mapM_congr_of_mem {f g : α → Except ε β} {l : List α} (h : ∀ a ∈ l, f a = g a) :
    l.mapM f = l.mapM g := by
  induction l with
  | nil => rfl
  | cons a rest ih =>
    rw [List.forall_mem_cons] at h
    rw [List.mapM_cons, List.mapM_cons, h.1, ih h.2]

end Lists

/-! ### Arguments -/

namespace Arguments

open Request (verboseSwitch)

variable {a : Arguments} {s : Switch}

/-- The arguments without the verbose options. -/
def quiet (a : Arguments) : Arguments :=
  { a with settings := a.settings.filter fun t => t.switch ≠ verboseSwitch }

theorem filter_quiet (a : Arguments) (hs : s ≠ verboseSwitch) :
    a.quiet.settings.filter (fun t => t.switch = s) = a.settings.filter fun t => t.switch = s := by
  rw [quiet, List.filter_filter]
  refine List.filter_congr fun t _ => ?_
  by_cases ht : t.switch = s
  · simp [ht, hs]
  · simp [ht]

theorem value?_quiet (a : Arguments) (hs : s ≠ verboseSwitch) : a.quiet.value? s = a.value? s := by
  rw [value?, value?, filter_quiet a hs]

theorem has_quiet (a : Arguments) (hs : s ≠ verboseSwitch) : a.quiet.has s = a.has s := by
  rw [has, has, count, count, List.countP_eq_length_filter, List.countP_eq_length_filter,
    filter_quiet a hs]

theorem filter_switches_quiet (a : Arguments) :
    a.quiet.switches.filter Switch.takesValue = a.switches.filter Switch.takesValue := by
  rw [switches, switches, filter_eraseDups, filter_eraseDups, List.filter_map, List.filter_map,
    quiet, List.filter_filter]
  congr 2
  refine List.filter_congr fun t _ => ?_
  by_cases ht : t.switch = verboseSwitch
  · simp [ht, verboseSwitch]
  · simp [ht]

end Arguments

/-! ### Requests -/

/-- The request at other settings. -/
def BuildRequest.withSettings (s : Console.Settings) (r : BuildRequest) : BuildRequest :=
  { r with settings := s }

namespace Request

variable {words words' : List String}

/-- The words after the command of a build say the same, but for their verbosity. -/
def SayAlike (words words' : List String) : Prop :=
  (readWords buildSwitches false words).map Arguments.quiet =
    (readWords buildSwitches false words').map Arguments.quiet

theorem readWords_verbose (words : List String) :
    readWords buildSwitches false ("-v" :: words) =
      (readWords buildSwitches false words).map (.after [⟨verboseSwitch, none⟩]) := by
  have hread : readWord buildSwitches "-v" = some (.complete [⟨verboseSwitch, none⟩]) := by
    decide +kernel
  rw [readWords.eq_def]
  dsimp only
  rw [if_neg (by decide), if_pos (by decide), hread]

/-- Verbose options before a command line say nothing else. -/
theorem sayAlike_replicate (n : Nat) (words : List String) :
    SayAlike (.replicate n "-v" ++ words) words := by
  induction n with
  | zero => rfl
  | succ n ih =>
    rw [SayAlike] at ih ⊢
    rw [List.replicate_succ, List.cons_append, readWords_verbose, Option.map_map, ← ih]
    rfl

/-- The request at other settings, if it has any. -/
def withSettings (s : Console.Settings) : Request → Request
  | .build r => .build (r.withSettings s)
  | q => q

/-- How often the words after the command of a build ask for more. -/
def verbosity (words : List String) : Nat :=
  ((readWords buildSwitches false words).map fun a => a.count verboseSwitch).getD 0

theorem readDirectories_quiet (fs : FileSystem) (a : Arguments) :
    readDirectories fs a.quiet = readDirectories fs a := by
  rw [readDirectories, readDirectories, Arguments.filter_switches_quiet]
  refine mapM_congr_of_mem fun s hs => ?_
  have hverbose : s ≠ verboseSwitch := by
    rintro rfl
    exact absurd (List.mem_filter.1 hs).2 (by decide)
  rw [Arguments.value?_quiet a hverbose]

/-- A build is read off the other options, but for its settings. -/
theorem readBuild_eq_map (fs : FileSystem) (a : Arguments) :
    readBuild fs a =
      (readBuild fs a.quiet).map (withSettings ⟨a.count verboseSwitch, a.has debugSwitch⟩) := by
  rw [readBuild, readBuild, readDirectories_quiet]
  have hoperands : a.quiet.operands = a.operands := rfl
  rw [hoperands]
  cases readDirectories fs a with
  | error m => rfl
  | ok directories =>
    match a.operands with
    | [] => rfl
    | [file] | file :: _ :: _ =>
      dsimp only [bind, Except.bind]
      cases readFile fs file <;> rfl

theorem withSettings_withSettings (s t : Console.Settings) (q : Request) :
    (q.withSettings t).withSettings s = q.withSettings s := by
  cases q <;> rfl

theorem map_readBuild_quiet (fs : FileSystem) (a : Arguments) (s : Console.Settings) :
    (readBuild fs a.quiet).map (withSettings s) = (readBuild fs a).map (withSettings s) := by
  rw [readBuild_eq_map fs a]
  cases readBuild fs a.quiet with
  | error m => rfl
  | ok q => exact congrArg Except.ok (withSettings_withSettings s _ q).symm

theorem ofWords_build (fs : FileSystem) (words : List String) :
    ofWords fs ("build" :: words) = readCommand buildSwitches words (readBuild fs) := by
  have hread : readWords commonSwitches true ("build" :: words) = some ⟨[], "build" :: words⟩ := by
    rw [readWords.eq_def]
    dsimp only
    rw [if_neg (by decide), if_neg (by decide), if_pos rfl]
  rw [ofWords, hread]
  rfl

theorem settings_of_withSettings {s : Console.Settings} {q : Request} {r : BuildRequest}
    (h : q.withSettings s = .build r) : r.settings = s := by
  cases q with
  | build r' =>
    obtain rfl := Request.build.inj h
    rfl
  | help | completion | escape => cases h

theorem verbosity_of_ofWords {fs : FileSystem} {r : BuildRequest}
    (h : ofWords fs ("build" :: words) = .ok (.build r)) :
    r.settings.verbosity = verbosity words := by
  rw [ofWords_build, readCommand] at h
  rw [verbosity]
  cases hread : readWords buildSwitches false words with
  | none => rw [hread] at h; cases h
  | some a =>
    rw [hread] at h
    dsimp only at h
    split at h
    · cases h
    · rw [readBuild_eq_map] at h
      cases hq : readBuild fs a.quiet with
      | error m => rw [hq] at h; cases h
      | ok q =>
        rw [hq] at h
        rw [settings_of_withSettings (Except.ok.inj h)]
        rfl

/-- Command lines that say the same ask for the same, if the settings are left out. -/
theorem ofWords_sayAlike (h : SayAlike words words') (fs : FileSystem) (s : Console.Settings) :
    (ofWords fs ("build" :: words)).map (withSettings s) =
      (ofWords fs ("build" :: words')).map (withSettings s) := by
  have hread (words : List String) : (ofWords fs ("build" :: words)).map (withSettings s) =
      ((readWords buildSwitches false words).map Arguments.quiet).elim (.error .badOptions)
        fun a => if a.has helpSwitch then .ok .help else (readBuild fs a).map (withSettings s) := by
    rw [ofWords_build, readCommand]
    cases readWords buildSwitches false words with
    | none => rfl
    | some a =>
      dsimp only [Option.map, Option.elim]
      rw [Arguments.has_quiet a (by decide), map_readBuild_quiet]
      split <;> rfl
  rw [hread, hread, h]

end Request

end InstallerKit.CommandLine
