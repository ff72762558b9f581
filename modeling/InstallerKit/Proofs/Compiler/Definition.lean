import InstallerKit.Proofs.Compiler
import InstallerKit.Proofs.Variables
import Mathlib.Data.List.Forall2

/-!
# Reading variables back from commands

The command of a source ends with the definitions of its variables. A definition is a name, an
equals sign and a value, so it can be read back if it is known where the name ends. A name may
have an equals sign in it, though: then a shorter name with a longer value is defined by the
same text. That is the only way for different variables to have the same commands.

* `ReadsAlike`, `definition_eq_iff`: when two definitions are the same text;
* `Source.definitions_eq_iff`: when two sources have the same definitions;
* `Plan.commands_eq_iff`: when two sources of a path have the same commands.
-/

namespace InstallerKit.Compiler

/-! ### Definitions -/

/-- The name of `y` is that of `x`, an equals sign and a beginning of the value of `x`, and its
    value is what is left of that after another equals sign. -/
def Splits (x y : String × String) : Prop :=
  ∃ middle, y.1 = x.1 ++ "=" ++ middle ∧ x.2 = middle ++ "=" ++ y.2

/-- Two variables that are the same, or differ in which equals sign ends the name. -/
def ReadsAlike (x y : String × String) : Prop :=
  x = y ∨ Splits x y ∨ Splits y x

theorem Splits.mem_name {x y : String × String} (h : Splits x y) : '=' ∈ y.1.toList := by
  obtain ⟨middle, hname, -⟩ := h
  simp [hname]

theorem Splits.definition_eq {x y : String × String} (h : Splits x y) :
    Plan.definition x.1 x.2 = Plan.definition y.1 y.2 := by
  obtain ⟨middle, hname, hvalue⟩ := h
  simp [Plan.definition, hname, hvalue, String.append_assoc]

/-- Of two names that are followed by equals signs in the same text, one ends at an equals sign
    that is in the other one, unless they are the same. -/
theorem splits_of_append_eq {n v n' v' more : List Char} (hname : n' = n ++ more)
    (hvalue : '=' :: v = more ++ '=' :: v') :
    n = n' ∧ v = v' ∨ ∃ middle, n' = n ++ '=' :: middle ∧ v = middle ++ '=' :: v' := by
  cases more with
  | nil => exact .inl ⟨by simpa using hname.symm, (List.cons.inj hvalue).2⟩
  | cons c middle =>
    obtain ⟨rfl, hrest⟩ := List.cons.inj hvalue
    exact .inr ⟨middle, hname, hrest⟩

/-- Definitions are the same text if and only if the variables read alike. -/
theorem definition_eq_iff {x y : String × String} :
    Plan.definition x.1 x.2 = Plan.definition y.1 y.2 ↔ ReadsAlike x y := by
  have hsplits {x y : String × String}
      (h : ∃ middle, y.1.toList = x.1.toList ++ '=' :: middle ∧
        x.2.toList = middle ++ '=' :: y.2.toList) : Splits x y := by
    obtain ⟨middle, hname, hvalue⟩ := h
    exact ⟨.ofList middle, String.toList_inj.1 (by simp [hname]),
      String.toList_inj.1 (by simp [hvalue])⟩
  have hsame {x y : String × String} (hname : x.1.toList = y.1.toList)
      (hvalue : x.2.toList = y.2.toList) : x = y :=
    Prod.ext (String.toList_inj.1 hname) (String.toList_inj.1 hvalue)
  constructor
  · intro h
    have htext : x.1.toList ++ '=' :: x.2.toList = y.1.toList ++ '=' :: y.2.toList := by
      simpa [Plan.definition] using congrArg String.toList h
    rcases List.append_eq_append_iff.1 htext with ⟨more, hname, hvalue⟩ | ⟨more, hname, hvalue⟩
    · rcases splits_of_append_eq hname hvalue with ⟨hn, hv⟩ | hsplit
      · exact .inl (hsame hn hv)
      · exact .inr (.inl (hsplits hsplit))
    · rcases splits_of_append_eq hname hvalue with ⟨hn, hv⟩ | hsplit
      · exact .inl (hsame hn hv).symm
      · exact .inr (.inr (hsplits hsplit))
  · rintro (rfl | h | h)
    · rfl
    · exact h.definition_eq
    · exact h.definition_eq.symm

/-! ### Tables -/

theorem Source.definitions_values (path : Path) (vs : Variables) :
    (⟨path, vs.values⟩ : Source).definitions =
      vs.table.entries.map fun (name, value) => Plan.definition name value := by
  rw [definitions, Variables.values]
  split
  · next h =>
    split at h
    · cases h
      rfl
    · cases h
  · next h =>
    split at h
    · cases h
    · next hempty =>
      rw [Variables.exist, Bool.not_eq_true', Bool.not_eq_false] at hempty
      rw [List.isEmpty_iff.1 hempty]
      rfl

/-- Sources have the same definitions if and only if their variables read alike, one by one. -/
theorem Source.definitions_eq_iff {path path' : Path} {vs vs' : Variables} :
    (⟨path, vs.values⟩ : Source).definitions = (⟨path', vs'.values⟩ : Source).definitions ↔
      List.Forall₂ ReadsAlike vs.table.entries vs'.table.entries := by
  rw [definitions_values, definitions_values, ← List.forall₂_eq_eq_eq, List.forall₂_map_left_iff,
    List.forall₂_map_right_iff]
  simp only [definition_eq_iff]

/-- Variables that read alike are the same where no name has an equals sign in it. -/
theorem eq_of_forall₂_readsAlike {entries entries' : List (String × String)}
    (h : List.Forall₂ ReadsAlike entries entries')
    (hnames : ∀ x ∈ entries, '=' ∉ x.1.toList) (hnames' : ∀ x ∈ entries', '=' ∉ x.1.toList) :
    entries = entries' := by
  induction h with
  | nil => rfl
  | cons hread _ ih =>
    rw [List.forall_mem_cons] at hnames hnames'
    rw [ih hnames.2 hnames'.2]
    rcases hread with rfl | hsplit | hsplit
    · rfl
    · exact absurd hsplit.mem_name hnames'.1
    · exact absurd hsplit.mem_name hnames.1

/-! ### Commands -/

namespace Plan

variable {plan : Plan} {directory : Path}

theorem command_of_commandsFor {sources : List Source} {i : Nat} {s : Source}
    {c : List String} (hs : sources[i]? = some s)
    (hc : (plan.commandsFor directory sources).1[i]? = some c) :
    plan.command directory s = .ok c := by
  induction sources generalizing i with
  | nil => simp at hs
  | cons t rest ih =>
    rw [commandsFor] at hc
    cases ht : plan.command directory t with
    | error e => simp [ht] at hc
    | ok first =>
      simp only [ht] at hc
      cases i with
      | zero =>
        obtain rfl : t = s := by simpa using hs
        obtain rfl : first = c := by simpa using hc
        exact ht
      | succ i => exact ih (by simpa using hs) (by simpa using hc)

/-- The command of a source is its invocation and its definitions. -/
theorem eq_of_command {s : Source} {c : List String} (h : plan.command directory s = .ok c) :
    c = plan.invocation directory s ++ s.definitions := by
  have hname : s.path.name ≠ "" := by
    intro hname
    simp [command, Source.objectName, Path.withSuffix?, hname, bind, Except.bind] at h
  exact Except.ok.inj (h.symm.trans (command_eq plan directory hname))

/-- Two sources of a plan that have the same path have the same command if and only if their
    variables read alike, one by one; where no name has an equals sign in it, if and only if they
    have the same variables. -/
theorem commands_eq_iff {i j : Nat} {path : Path} {vs vs' : Variables} {c c' : List String}
    (hi : plan.sources[i]? = some ⟨path, vs.values⟩)
    (hj : plan.sources[j]? = some ⟨path, vs'.values⟩)
    (hc : (plan.commands directory).1[i]? = some c)
    (hc' : (plan.commands directory).1[j]? = some c') :
    (c = c' ↔ List.Forall₂ ReadsAlike vs.table.entries vs'.table.entries) ∧
      ((∀ name ∈ vs.table.keys ++ vs'.table.keys, '=' ∉ name.toList) → (c = c' ↔ vs = vs')) := by
  have hiff : c = c' ↔ List.Forall₂ ReadsAlike vs.table.entries vs'.table.entries := by
    rw [eq_of_command (command_of_commandsFor hi hc), eq_of_command (command_of_commandsFor hj hc')]
    -- What comes before the definitions depends on the path alone.
    exact (List.append_right_inj (plan.invocation directory ⟨path, vs.values⟩)).trans
      Source.definitions_eq_iff
  refine ⟨hiff, fun hnames => hiff.trans ⟨fun h => ?_, ?_⟩⟩
  · rw [List.forall_mem_append] at hnames
    obtain ⟨⟨entries, _⟩⟩ := vs
    obtain ⟨⟨entries', _⟩⟩ := vs'
    obtain rfl : entries = entries' := eq_of_forall₂_readsAlike h
      (fun x hx => hnames.1 _ (List.mem_map_of_mem hx))
      (fun x hx => hnames.2 _ (List.mem_map_of_mem hx))
    rfl
  · rintro rfl
    exact List.forall₂_same.2 fun x _ => .inl rfl

/-- Equals signs in values do no harm. -/
theorem commands_eq_iff_of_signs_in_values :
    let path : Path := .ofString "out/main.wxs"
    let vs : Variables := ⟨.ofList [("JpUI", "yes"), ("Name", "a=b")]⟩
    let vs' : Variables := ⟨.ofList [("JpUI", "yes"), ("Name", "a")]⟩
    let plan := (new.add path vs.values).add path vs'.values
    ∃ c c', (plan.commands .here).1[0]? = some c ∧ (plan.commands .here).1[1]? = some c' ∧
      (c = c' ↔ vs = vs') ∧ vs ≠ vs' := by
  intro path vs vs' plan
  have hlength : (plan.commands .here).1.length = 2 := by decide +kernel
  have hc : (plan.commands .here).1[0]? = some (plan.commands .here).1[0] :=
    List.getElem?_eq_getElem _
  have hc' : (plan.commands .here).1[1]? = some (plan.commands .here).1[1] :=
    List.getElem?_eq_getElem _
  exact ⟨_, _, hc, hc', (commands_eq_iff rfl rfl hc hc').2 (by decide), by decide⟩

/-- An equals sign in a name makes it read like another name with a longer value. -/
theorem commands_of_sign_in_name :
    let path : Path := .ofString "out/main.wxs"
    let command := ["candle.exe", "-nologo", "out/main.wxs", "-ext", "WixUtilExtension", "-arch",
      "x64", "-out", "main.wixobj", "-dA=B=C"]
    ∃ vs vs' : Variables, Variables.none.set (.text "A=B") (.text "C") = .ok vs ∧
      Variables.none.set (.text "A") (.text "B=C") = .ok vs' ∧
      vs.table.entries ≠ vs'.table.entries ∧
      ((new.add path vs.values).add path vs'.values).commands .here =
        ([command, command], none) := by
  intro path command
  exact ⟨_, _, rfl, rfl, by decide, by decide +kernel⟩

end Plan

end InstallerKit.Compiler
