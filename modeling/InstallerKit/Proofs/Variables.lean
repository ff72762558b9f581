import InstallerKit.Variables
import Mathlib.Data.List.Induction

/-!
# Settings

A table that is made of settings, one after the other, has each name where it first came, with
the value that came last. Variables are such a table of the settings that they have taken:
those with a name and a text. There is no table before the first one of them.

* `Table.keys_ofList`, `Table.get?_ofList`: the table of some settings;
* `Variables.toOption_set`: the settings that are taken;
* `Variables.values_ofSettings`: the table of variables.
-/

namespace InstallerKit

namespace Table

variable {α : Type}

theorem ofList_append_singleton (settings : List (String × α)) (s : String × α) :
    ofList (settings ++ [s]) = (ofList settings).set s.1 s.2 := by
  rw [ofList, List.foldl_append]
  rfl

/-- The names come in the order in which they first came. -/
theorem keys_ofList (settings : List (String × α)) :
    (ofList settings).keys = (settings.map Prod.fst).eraseDups := by
  -- Settings are made from the front on, so the induction adds one at the end.
  induction settings using List.reverseRecOn with
  | nil => rfl
  | append_singleton settings s ih =>
    rw [ofList_append_singleton, keys_set, ih, List.map_append, List.eraseDups_append]
    by_cases h : s.1 ∈ settings.map Prod.fst
    · rw [if_pos (List.mem_eraseDups.2 h)]
      simp [List.removeAll, h]
    · rw [if_neg (mt List.mem_eraseDups.1 h)]
      simp [List.removeAll, h, List.eraseDups_cons]

/-- A name has the value that came last. -/
theorem get?_ofList (settings : List (String × α)) (key : String) :
    (ofList settings).get? key = settings.reverse.lookup key := by
  induction settings using List.reverseRecOn with
  | nil => rfl
  | append_singleton settings s ih =>
    obtain ⟨name, value⟩ := s
    rw [ofList_append_singleton, get?_set, ih, List.reverse_append, List.reverse_singleton,
      List.singleton_append, List.lookup_cons]
    by_cases h : key = name
    · rw [if_pos h, h, beq_self_eq_true]
    · rw [if_neg h, beq_false_of_ne h]

theorem isEmpty_ofList (settings : List (String × α)) :
    (ofList settings).isEmpty = settings.isEmpty := by
  cases settings using List.reverseRecOn with
  | nil => rfl
  | append_singleton settings s =>
    have hput (entries : List (String × α)) : (put s.1 s.2 entries).isEmpty = false := by
      cases entries with
      | nil => rfl
      | cons e rest =>
        rw [put]
        split <;> rfl
    have hne : settings ++ [s] ≠ [] := by simp
    rw [ofList_append_singleton, List.isEmpty_eq_false_iff.2 hne]
    exact hput _

end Table

namespace Variables

/-- The setting that a name and a value make, if they are texts and there is a name. -/
def setting? : Datum → Datum → Option (String × String)
  | .text name, .text value => if name = "" then Option.none else some (name, value)
  | _, _ => Option.none

/-- The variables that have taken some settings. -/
def ofSettings (settings : List (String × String)) : Variables :=
  ⟨.ofList settings⟩

theorem ofSettings_append_singleton (settings : List (String × String)) (s : String × String) :
    ofSettings (settings ++ [s]) = ⟨(ofSettings settings).table.set s.1 s.2⟩ := by
  rw [ofSettings, Table.ofList_append_singleton]
  rfl

theorem toOption_set (vs : Variables) (name value : Datum) :
    (vs.set name value).toOption =
      (setting? name value).map fun s => ⟨vs.table.set s.1 s.2⟩ := by
  cases name with
  | text n =>
    by_cases hn : n = ""
    · cases value <;> simp [set, setting?, hn, Except.toOption]
    · cases value <;> simp [set, setting?, hn, Except.toOption]
  | _ => rfl

theorem values_ofSettings (settings : List (String × String)) :
    (ofSettings settings).values =
      if settings = [] then Option.none else some (.ofList settings) := by
  rw [values, exist, ofSettings, Table.isEmpty_ofList]
  cases settings <;> rfl

theorem values_eq_none_iff {vs : Variables} : vs.values = Option.none ↔ vs = none := by
  obtain ⟨entries, hdistinct⟩ := vs
  cases entries <;> simp [values, exist, none, Table.isEmpty, Table.empty]

end Variables

end InstallerKit
