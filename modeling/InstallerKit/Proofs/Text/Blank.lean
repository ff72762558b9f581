import InstallerKit.Text.Blank
import Mathlib.Data.List.DropRight

/-!
# Stripping and first lines

To strip a text is to take the blanks off its two ends, all of them and nothing else: a text
has only one part without blanks at its ends that all of the text's other characters around it
are blanks. The first line of a text ends where its first line break is.

* `strip_eq_iff`: what is left of a text that is stripped;
* `strip_surround`: blanks around a text make no difference;
* `firstLine_eq_iff`: the first line of a text;
* `strip_firstLine_eq_nil_iff`: when nothing is left of it.
-/

namespace InstallerKit.Text

/-- All characters of a text are blank, if there are any. -/
def AllBlank (cs : List Char) : Prop :=
  ∀ c ∈ cs, isBlank c = true

instance (cs : List Char) : Decidable (AllBlank cs) :=
  inferInstanceAs (Decidable (∀ c ∈ cs, isBlank c = true))

/-- A text neither starts nor ends with a blank. -/
structure IsStripped (cs : List Char) : Prop where
  head : ∀ c ∈ cs.head?, isBlank c = false
  last : ∀ c ∈ cs.getLast?, isBlank c = false

variable {cs before after : List Char}

/-! ### Stripping -/

theorem strip_eq (cs : List Char) : strip cs = (cs.dropWhile isBlank).rdropWhile isBlank :=
  rfl

theorem isStripped_strip (cs : List Char) : IsStripped (strip cs) := by
  constructor
  · intro c hc
    rw [Option.mem_def, List.head?_eq_some_iff] at hc
    obtain ⟨inner, hinner⟩ := hc
    -- The head of the text is still that of the text without leading blanks.
    have hhead := List.head?_dropWhile_not isBlank cs
    rw [← List.rdropWhile_append_rtakeWhile (p := isBlank) (l := cs.dropWhile isBlank), ← strip_eq,
      hinner, List.cons_append] at hhead
    simpa using hhead
  · intro c hc
    have hne : strip cs ≠ [] := fun h => by simp [h] at hc
    have hlast := List.rdropWhile_last_not isBlank (cs.dropWhile isBlank) hne
    rw [Option.mem_def, List.getLast?_eq_some_getLast hne, Option.some.injEq] at hc
    rw [← hc]
    exact Bool.eq_false_iff.2 hlast

theorem exists_strip (cs : List Char) :
    ∃ before after, AllBlank before ∧ AllBlank after ∧ cs = before ++ strip cs ++ after := by
  refine ⟨cs.takeWhile isBlank, (cs.dropWhile isBlank).rtakeWhile isBlank, fun c hc => ?_,
    fun c hc => ?_, ?_⟩
  · exact List.mem_takeWhile_imp hc
  · exact List.mem_rtakeWhile_imp hc
  · rw [strip_eq, List.append_assoc, List.rdropWhile_append_rtakeWhile,
      List.takeWhile_append_dropWhile]

/-- Blanks before a text are dropped together with those that the text starts with. -/
theorem strip_blanks_append (hbefore : AllBlank before) (cs : List Char) :
    strip (before ++ cs) = strip cs := by
  rw [strip, List.dropWhile_append_of_pos hbefore, strip]

theorem IsStripped.strip_eq (h : IsStripped cs) : strip cs = cs := by
  rw [Text.strip_eq]
  cases cs with
  | nil => rfl
  | cons c rest =>
    have hc : ¬ isBlank c = true := Bool.eq_false_iff.1 (h.head c rfl)
    rw [List.dropWhile_cons_of_neg hc, List.rdropWhile_eq_self_iff]
    intro hne
    exact Bool.eq_false_iff.1 (h.last _ (List.getLast?_eq_some_getLast hne))

/-- Blanks behind a text are dropped together with those that the text ends in. -/
theorem strip_append_blanks (hafter : AllBlank after) (cs : List Char) :
    strip (cs ++ after) = strip cs := by
  rw [strip, strip, List.dropWhile_append]
  split
  · next h =>
    rw [List.isEmpty_iff] at h
    rw [h, dropWhile_eq_nil_iff.2 hafter]
  · rw [List.reverse_append, List.dropWhile_append_of_pos]
    exact fun c hc => hafter c (List.mem_reverse.1 hc)

theorem strip_surround (hbefore : AllBlank before) (hafter : AllBlank after) (cs : List Char) :
    strip (before ++ cs ++ after) = strip cs := by
  rw [strip_append_blanks hafter, strip_blanks_append hbefore]

/-- What is left of a text is the part without blanks at its ends that has only blanks around
    it. -/
theorem strip_eq_iff {inner : List Char} :
    strip cs = inner ↔ IsStripped inner ∧
      ∃ before after, AllBlank before ∧ AllBlank after ∧ cs = before ++ inner ++ after := by
  constructor
  · rintro rfl
    exact ⟨isStripped_strip cs, exists_strip cs⟩
  · rintro ⟨hinner, before, after, hbefore, hafter, rfl⟩
    rw [strip_surround hbefore hafter, hinner.strip_eq]

theorem strip_strip (cs : List Char) : strip (strip cs) = strip cs :=
  (isStripped_strip cs).strip_eq

theorem strip_subset (cs : List Char) : strip cs ⊆ cs := by
  obtain ⟨before, after, -, -, hcs⟩ := exists_strip cs
  intro c hc
  rw [hcs, List.mem_append, List.mem_append]
  exact .inl (.inr hc)

/-! ### First lines -/

/-- What comes before the first line break is the first line. -/
theorem firstLine_eq_iff {line : List Char} :
    firstLine cs = line ↔ (∀ c ∈ line, isLineBreak c = false) ∧
      ∃ rest, cs = line ++ rest ∧ ∀ c ∈ rest.head?, isLineBreak c = true := by
  constructor
  · rintro rfl
    refine ⟨fun c hc => ?_, cs.dropWhile fun c => !isLineBreak c, ?_, fun c hc => ?_⟩
    · simpa using List.mem_takeWhile_imp hc
    · exact List.takeWhile_append_dropWhile.symm
    · have hhead := List.head?_dropWhile_not (fun c => !isLineBreak c) cs
      rw [Option.mem_def.1 hc] at hhead
      simpa using hhead
  · rintro ⟨hline, rest, rfl, hrest⟩
    rw [firstLine, List.takeWhile_append_of_pos (by simpa using hline)]
    cases rest with
    | nil => exact List.append_nil line
    | cons c rest =>
      rw [List.takeWhile_cons_of_neg (by simp [hrest c rfl]), List.append_nil]

/-- A text that is not blank has a first line that is not blank, once it is stripped: there is a
    character at its start that is no blank, hence no line break either. -/
theorem strip_firstLine_eq_nil_iff : strip (firstLine (strip cs)) = [] ↔ AllBlank cs := by
  refine Iff.trans ?_ strip_eq_nil_iff
  constructor
  · intro h
    cases hstrip : strip cs with
    | nil => rfl
    | cons c rest =>
      have hc : isBlank c = false := (isStripped_strip cs).head c (by rw [hstrip]; rfl)
      have hbreak : isLineBreak c = false :=
        Bool.eq_false_iff.2 fun hbreak => Bool.eq_false_iff.1 hc (isBlank_of_isLineBreak hbreak)
      rw [hstrip, firstLine, List.takeWhile_cons_of_pos (by simp [hbreak])] at h
      exact absurd (strip_eq_nil_iff.1 h c List.mem_cons_self) (Bool.eq_false_iff.1 hc)
  · intro h
    rw [h]
    rfl

end InstallerKit.Text
