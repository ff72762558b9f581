import InstallerKit.Text.Occurrence

/-!
# Where a text occurs

`occursIn` decides whether a text is an infix of another one. A text that starts with a
character that is not in what stands before it can only occur behind that.

* `occursIn_iff`: the decision is right;
* `infix_of_infix_append`, `infix_of_append_infix`: where a text cannot occur.
-/

namespace InstallerKit.Text

theorem occursIn_iff {needle cs : List Char} : occursIn needle cs = true ↔ needle <:+: cs := by
  induction cs with
  | nil => simp [occursIn]
  | cons c cs ih =>
    rw [occursIn, Bool.or_eq_true, List.isPrefixOf_iff_prefix, ih, List.infix_cons_iff]

theorem contains_eq_false_iff {s needle : String} :
    contains s needle = false ↔ ¬ needle.toList <:+: s.toList := by
  rw [contains, ← occursIn_iff, Bool.not_eq_true]

/-- A text occurs behind what its first character is not in. -/
theorem infix_of_infix_append {c : Char} {needle before cs : List Char} (hc : c ∉ before)
    (h : c :: needle <:+: before ++ cs) : c :: needle <:+: cs := by
  induction before with
  | nil => exact h
  | cons b before ih =>
    simp only [List.mem_cons, not_or] at hc
    rw [List.cons_append, List.infix_cons_iff, List.cons_prefix_cons] at h
    rcases h with h | h
    · exact absurd h.1 hc.1
    · exact ih hc.2 h

/-- A text occurs before what its last character is not in. -/
theorem infix_of_append_infix {c : Char} {needle cs after : List Char} (hc : c ∉ after)
    (h : needle ++ [c] <:+: cs ++ after) : needle ++ [c] <:+: cs := by
  rw [← List.reverse_infix, List.reverse_append, List.reverse_append] at h
  rw [← List.reverse_infix, List.reverse_append]
  exact infix_of_infix_append (by simpa using hc) h

/-- What comes before an occurrence ends in the beginning of it. -/
theorem infix_of_suffix {needle before after : List Char} {c : Char} (h : needle <:+ before) :
    needle ++ [c] <:+: before ++ c :: after := by
  obtain ⟨u, rfl⟩ := h
  exact ⟨u, after, by simp⟩

end InstallerKit.Text
