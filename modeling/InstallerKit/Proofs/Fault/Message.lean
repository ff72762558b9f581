import InstallerKit.Proofs.Fault.Trail
import InstallerKit.Proofs.Text.Blank
import Mathlib.Data.List.Forall2

/-!
# Messages of a fault

The messages of a fault are those of the problems on its trail, in the order of the trail. Of
each text that is not blank the first line is left, without the blanks around the text and
around the line; blank texts leave nothing. As line breaks are blanks, a text that is not blank
always has a first line that is not blank either.

* `line?_eq_none_iff`, `isFirstLine_of_line?`: what is left of a text;
* `messages_of_trail`: the messages of a fault.
-/

namespace InstallerKit.Fault

variable {f : Fault} {text entry : String}

/-- An entry is the first line of a text, without the blanks around the text and the line. -/
structure IsFirstLine (text entry : String) : Prop where
  of_line : ∃ line rest, Text.strip text.toList = line ++ rest ∧
    (∀ c ∈ line, Text.isLineBreak c = false) ∧ (∀ c ∈ rest.head?, Text.isLineBreak c = true) ∧
    Text.strip line = entry.toList
  ne_empty : entry ≠ ""
  isOneLine : ∀ c ∈ entry.toList, Text.isLineBreak c = false
  isStripped : Text.IsStripped entry.toList

/-! ### What is left of a text -/

theorem line?_eq_some_iff : line? text = some entry ↔
    entry ≠ "" ∧ Text.strip (Text.firstLine (Text.strip text.toList)) = entry.toList := by
  rw [line?]
  split
  · next hnil =>
    rw [hnil]
    constructor
    · intro h
      cases h
    · rintro ⟨hne, hentry⟩
      exact absurd (String.toList_inj.1 hentry.symm) hne
  · next hne =>
    rw [Option.some.injEq]
    constructor
    · rintro rfl
      exact ⟨fun h => hne (String.ofList_inj.1 h), String.toList_ofList.symm⟩
    · rintro ⟨-, hentry⟩
      rw [hentry, String.ofList_toList]

theorem line?_eq_none_iff : line? text = none ↔ Text.AllBlank text.toList := by
  rw [← Text.strip_firstLine_eq_nil_iff, line?]
  split
  · next hnil => exact iff_of_true rfl hnil
  · next hne => exact iff_of_false (Option.some_ne_none _) hne

theorem isFirstLine_of_line? (h : line? text = some entry) : IsFirstLine text entry := by
  obtain ⟨hne, hentry⟩ := line?_eq_some_iff.1 h
  obtain ⟨hline, rest, htext, hrest⟩ := Text.firstLine_eq_iff.1 (rfl : Text.firstLine
    (Text.strip text.toList) = Text.firstLine (Text.strip text.toList))
  refine ⟨⟨_, rest, htext, hline, hrest, hentry⟩, hne, fun c hc => ?_, ?_⟩
  · rw [← hentry] at hc
    exact hline c (Text.strip_subset _ hc)
  · rw [← hentry]
    exact Text.isStripped_strip _

/-! ### The messages -/

/-- What the problem at a number says. -/
def textAt (f : Fault) (i : Nat) : String :=
  (f.nodes[i]?.map fun n => n.problem.message).getD ""

theorem messages_eq (f : Fault) :
    f.messages = (f.trail (some f.head)).filterMap fun i => line? (f.textAt i) := by
  have hempty : line? "" = none := line?_eq_none_iff.2 (by simp [Text.AllBlank])
  rw [messages, problemsAt, List.filterMap_filterMap]
  refine List.filterMap_congr fun i _ => ?_
  cases hnode : f.nodes[i]? with
  | none => simp [textAt, hnode, hempty]
  | some n => simp [textAt, hnode]

/-- What a list is mapped to, one by one, where something is left. -/
theorem forall₂_filterMap {α β : Type} {g : α → Option β} {p : α → Bool} {r : α → β → Prop}
    (hnone : ∀ a, g a = none ↔ p a = false) (hsome : ∀ a b, g a = some b → r a b) (l : List α) :
    List.Forall₂ r (l.filter p) (l.filterMap g) := by
  induction l with
  | nil => exact .nil
  | cons a l ih =>
    cases hg : g a with
    | none =>
      rw [List.filterMap_cons_none hg, List.filter_cons_of_neg (by simp [(hnone a).1 hg])]
      exact ih
    | some b =>
      have hp : p a = true := by
        by_contra hp
        rw [Bool.not_eq_true] at hp
        cases hg.symm.trans ((hnone a).2 hp)
      rw [List.filterMap_cons_some hg, List.filter_cons_of_pos hp]
      exact .cons (hsome a b hg) ih

/-- The walk back from a fault ends, and the fault's messages come from what is on that trail: one
    for each text that is not blank, in the order of the trail. The hint is the last one, and
    there is none if and only if every text is blank. -/
theorem messages_of_trail (f : Fault) :
    ∃ t, f.Walks [] (some f.head) t ∧
      (f.IsTrail f.head t ∧ (∀ i ∈ t, i < f.nodes.length) ∧ ∀ t', f.IsTrail f.head t' → t' = t) ∧
      List.Forall₂ (fun i entry => IsFirstLine (f.textAt i) entry)
        (t.filter fun i => ¬ Text.AllBlank (f.textAt i).toList) f.messages ∧
      f.hint = f.messages.getLast? ∧
      (f.hint = none ↔ ∀ i ∈ t, Text.AllBlank (f.textAt i).toList) := by
  have hwalks : f.Walks [] (some f.head) (f.trail (some f.head)) :=
    walks_trail (by simpa using f.head_lt)
  have htrail : f.IsTrail f.head (f.trail (some f.head)) := hwalks.isTrail
  refine ⟨_, hwalks, ⟨htrail, hwalks.lt (by simpa using f.head_lt), fun t' h => h.eq htrail⟩,
    ?_, rfl, ?_⟩
  · have hnone (i : Nat) : line? (f.textAt i) = none ↔
        decide (¬ Text.AllBlank (f.textAt i).toList) = false := by
      rw [line?_eq_none_iff, decide_eq_false_iff_not, not_not]
    rw [messages_eq]
    exact forall₂_filterMap hnone (fun i entry h => isFirstLine_of_line? h) _
  · rw [hint, List.getLast?_eq_none_iff, messages_eq, List.filterMap_eq_nil_iff]
    simp only [line?_eq_none_iff]

/-- A circle that is entered on the way is gone round once. -/
example :
    let node (message : String) (cause context : Option Nat) : Node :=
      ⟨.reported .value message, [], cause, context⟩
    (⟨[node "outer" (some 1) (some 3), node " \n" none (some 2), node "inner\nmore" (some 1) none,
      node "passed over" none none], 0, by simp⟩ : Fault).messages = ["outer", "inner"] := by
  decide +kernel

end InstallerKit.Fault
