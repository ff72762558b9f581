import InstallerKit.Version
import Mathlib.Data.List.DropRight
import Mathlib.Data.List.GetD
import Mathlib.Order.PiLex

/-!
# The order of versions

A version stands for a sequence of numbers without end: its components, and zeros behind them.
Versions compare as these sequences do, that is, by the first place where they differ. To which
width two versions are padded for a comparison makes no difference, as the zeros that it adds
are in the sequence anyway. Nor is anything lost by cutting off the zeros at the end: what is
left is the same for two versions exactly if their sequences are. So equality, order and hash,
which each deal with those zeros in their own way, agree with one another.

* `same_iff`, `older_iff`: the comparisons, by the sequences;
* `trimmed_eq_iff`: what is hashed;
* `comparisons_agree`: the order of versions.
-/

namespace InstallerKit.Version

/-! ### Numbers at places -/

section Places

variable {l l' : List ℕ}

theorem eq_iff_getD (hlength : l.length = l'.length) : l = l' ↔ ∀ i, l.getD i 0 = l'.getD i 0 := by
  constructor
  · intro h i
    rw [h]
  · intro h
    refine List.ext_getElem hlength fun i hi hi' => ?_
    have hplace := h i
    rwa [List.getD_eq_getElem _ _ hi, List.getD_eq_getElem _ _ hi'] at hplace

theorem lt_iff_getD (hlength : l.length = l'.length) :
    l < l' ↔ ∃ i, (∀ j < i, l.getD j 0 = l'.getD j 0) ∧ l.getD i 0 < l'.getD i 0 := by
  rw [List.lt_iff_exists]
  constructor
  · rintro (⟨-, hshort⟩ | ⟨i, hi, hi', hbefore, hlt⟩)
    · exact absurd hlength hshort.ne
    · refine ⟨i, fun j hj => ?_, ?_⟩
      · rw [List.getD_eq_getElem _ _ (hj.trans hi), List.getD_eq_getElem _ _ (hj.trans hi')]
        exact hbefore j hj
      · rwa [List.getD_eq_getElem _ _ hi, List.getD_eq_getElem _ _ hi']
  · rintro ⟨i, hbefore, hlt⟩
    have hi' : i < l'.length := by
      by_contra hge
      rw [List.getD_eq_default _ _ (not_lt.1 hge)] at hlt
      exact absurd hlt (Nat.not_lt_zero _)
    have hi : i < l.length := hlength ▸ hi'
    refine .inr ⟨i, hi, hi', fun j hj => ?_, ?_⟩
    · have hplace := hbefore j hj
      rwa [List.getD_eq_getElem _ _ (hj.trans hi), List.getD_eq_getElem _ _ (hj.trans hi')]
        at hplace
    · rwa [List.getD_eq_getElem _ _ hi, List.getD_eq_getElem _ _ hi'] at hlt

/-- Zeros at the end of a list are no news. -/
theorem getD_append_zeros {zeros : List ℕ} (hzeros : ∀ n ∈ zeros, n = 0) (i : ℕ) :
    (l ++ zeros).getD i 0 = l.getD i 0 := by
  rcases lt_or_ge i l.length with hi | hi
  · exact List.getD_append l zeros 0 i hi
  · rw [List.getD_append_right l zeros 0 i hi, List.getD_eq_default l 0 hi]
    rcases lt_or_ge (i - l.length) zeros.length with hi' | hi'
    · rw [List.getD_eq_getElem _ _ hi']
      exact hzeros _ (List.getElem_mem hi')
    · exact List.getD_eq_default zeros 0 hi'

/-- A list that does not end in a zero is no longer than any that has the same numbers. -/
theorem length_le_of_getD_eq (hlast : ∀ h : l ≠ [], l.getLast h ≠ 0)
    (h : ∀ i, l.getD i 0 = l'.getD i 0) : l.length ≤ l'.length := by
  by_contra hlt
  rw [not_le] at hlt
  have hne : l ≠ [] := List.ne_nil_of_length_pos (Nat.zero_lt_of_lt hlt)
  refine hlast hne ?_
  rw [List.getLast_eq_getElem, ← List.getD_eq_getElem l 0, h]
  exact List.getD_eq_default _ _ (Nat.le_sub_one_of_lt hlt)

end Places

variable {a b : Version}

/-- The number at a place of a version. Behind the components there are zeros. -/
def place (v : Version) (i : ℕ) : ℕ :=
  v.components.getD i 0

/-- The numbers of a version, in lexicographic order. -/
def places (v : Version) : Lex (ℕ → ℕ) :=
  toLex v.place

/-- One sequence comes before another one if it has the smaller number at the first place where
    they differ. -/
theorem places_lt_iff :
    a.places < b.places ↔ ∃ i, (∀ j < i, a.place j = b.place j) ∧ a.place i < b.place i :=
  Iff.rfl

theorem places_eq_iff : a.places = b.places ↔ ∀ i, a.place i = b.place i :=
  toLex_inj.trans funext_iff

/-! ### Padding -/

/-- The version with more zeros at its end. -/
def extended (v : Version) (n : ℕ) : Version :=
  { v with components := v.components ++ List.replicate n 0 }

theorem places_extended (v : Version) (n : ℕ) : (v.extended n).places = v.places :=
  places_eq_iff.2 fun i => getD_append_zeros (fun _ hm => List.eq_of_mem_replicate hm) i

theorem getD_padded (v : Version) (width i : ℕ) : (v.padded width).getD i 0 = v.place i :=
  getD_append_zeros (fun _ hm => List.eq_of_mem_replicate hm) i

theorem length_padded {v : Version} {width : ℕ} (h : v.components.length ≤ width) :
    (v.padded width).length = width := by
  rw [padded, List.length_append, List.length_replicate, Nat.add_sub_cancel' h]

theorem length_padded_width (a b : Version) :
    (a.padded (width a b)).length = (b.padded (width a b)).length := by
  have ha : (a.padded (width a b)).length = width a b := length_padded (le_max_left _ _)
  have hb : (b.padded (width a b)).length = width a b := length_padded (le_max_right _ _)
  rw [ha, hb]

theorem same_iff : a.same b ↔ a.places = b.places := by
  rw [same, beq_iff_eq, eq_iff_getD (length_padded_width a b), places_eq_iff]
  simp only [getD_padded]

theorem older_iff : a.older b ↔ a.places < b.places := by
  rw [older, decide_eq_true_eq, lt_iff_getD (length_padded_width a b), places_lt_iff]
  simp only [getD_padded]

/-! ### The other comparisons -/

theorem differs_iff : a.differs b ↔ a.places ≠ b.places := by
  rw [differs, Bool.not_eq_true', ← Bool.not_eq_true, same_iff]

theorem atMost_iff : a.atMost b ↔ a.places ≤ b.places := by
  rw [atMost, Bool.or_eq_true, older_iff, same_iff]
  exact le_iff_lt_or_eq.symm

theorem atLeast_iff : a.atLeast b ↔ a.places ≥ b.places := by
  rw [atLeast, Bool.not_eq_true', ← Bool.not_eq_true, older_iff]
  exact not_lt

theorem newer_iff : a.newer b ↔ a.places > b.places := by
  rw [newer, Bool.and_eq_true, Bool.not_eq_true', Bool.not_eq_true', ← Bool.not_eq_true,
    ← Bool.not_eq_true, older_iff, same_iff]
  constructor
  · rintro ⟨hle, hne⟩
    exact lt_of_le_of_ne (not_lt.1 hle) (Ne.symm hne)
  · intro h
    exact ⟨lt_asymm h, h.ne'⟩

/-- All comparisons are the same for versions of the same numbers. -/
theorem compare_congr {a' b' : Version} (ha : a'.places = a.places) (hb : b'.places = b.places) :
    ∀ compare ∈ [same, differs, older, atMost, newer, atLeast],
      compare a' b' = compare a b := by
  have hcongr {compare : Version → Version → Bool} {r : Lex (ℕ → ℕ) → Lex (ℕ → ℕ) → Prop}
      (h : ∀ {a b}, compare a b ↔ r a.places b.places) : compare a' b' = compare a b := by
    rw [Bool.eq_iff_iff, h, h, ha, hb]
  simp only [List.forall_mem_cons]
  exact ⟨hcongr same_iff, hcongr differs_iff, hcongr older_iff, hcongr atMost_iff,
    hcongr newer_iff, hcongr atLeast_iff, by simp⟩

/-! ### Trimming -/

theorem trimmed_eq (v : Version) : v.trimmed = v.components.rdropWhile (· = 0) :=
  rfl

theorem getD_trimmed (v : Version) (i : ℕ) : v.trimmed.getD i 0 = v.place i := by
  have hzeros : ∀ n ∈ v.components.rtakeWhile (· = 0), n = 0 := fun n hn => by
    simpa using List.mem_rtakeWhile_imp hn
  rw [trimmed_eq, place, ← getD_append_zeros hzeros, List.rdropWhile_append_rtakeWhile]

theorem getLast_trimmed_ne_zero (v : Version) (h : v.trimmed ≠ []) : v.trimmed.getLast h ≠ 0 := by
  have hlast := List.rdropWhile_last_not (fun n => decide (n = 0)) v.components h
  rwa [decide_eq_true_eq] at hlast

/-- Without the zeros at their end, the components are the same exactly for versions that are
    equal. -/
theorem trimmed_eq_iff : a.trimmed = b.trimmed ↔ a.places = b.places := by
  have hplaces : a.places = b.places ↔ ∀ i, a.trimmed.getD i 0 = b.trimmed.getD i 0 := by
    simp only [places_eq_iff, getD_trimmed]
  rw [hplaces]
  refine ⟨fun h i => by rw [h], fun h => (eq_iff_getD ?_).2 h⟩
  exact le_antisymm (length_le_of_getD_eq a.getLast_trimmed_ne_zero h)
    (length_le_of_getD_eq b.getLast_trimmed_ne_zero fun i => (h i).symm)

/-! ### The order -/

/-- Versions are in a total order up to equality, which all comparisons agree on: the
    lexicographic order of their numbers. Zeros at the end do not count, equal versions have
    equal hashes, and a version has the optional features if an older one has. -/
theorem comparisons_agree (a b c : Version) :
    -- Equality is an equivalence,
    (a.same a ∧ (a.same b → b.same a) ∧ (a.same b → b.same c → a.same c)) ∧
    -- and up to it versions are in a strict total order,
    ((a.older b → b.older c → a.older c) ∧
      (a.older b ∧ ¬ a.same b ∧ ¬ b.older a ∨ ¬ a.older b ∧ a.same b ∧ ¬ b.older a ∨
        ¬ a.older b ∧ ¬ a.same b ∧ b.older a)) ∧
    -- of which the other comparisons are made up.
    ((a.atMost b ↔ a.older b ∨ a.same b) ∧ (a.newer b ↔ b.older a) ∧
      (a.atLeast b ↔ b.older a ∨ a.same b) ∧ (a.differs b ↔ ¬ a.same b)) ∧
    -- More zeros change nothing.
    (∀ m n, ∀ compare ∈ [same, differs, older, atMost, newer, atLeast],
      compare (a.extended m) (b.extended n) = compare a b) ∧
    -- The order is that of the numbers at the first place where they differ.
    ((a.same b ↔ ∀ i, a.place i = b.place i) ∧
      (a.older b ↔ ∃ i, (∀ j < i, a.place j = b.place j) ∧ a.place i < b.place i)) ∧
    -- What is hashed is the same exactly for equal versions.
    ((a.trimmed = b.trimmed ↔ a.same b) ∧
      ∀ (α : Type) (hash : List ℕ → α), a.same b → a.hashBy hash = b.hashBy hash) ∧
    (a.hasFeatures → a.atMost b → b.hasFeatures) := by
  refine ⟨?equivalence, ?strict, ?others, ?zeros, ?places, ?hash, ?features⟩
  case equivalence =>
    rw [same_iff, same_iff, same_iff, same_iff, same_iff]
    exact ⟨rfl, Eq.symm, Eq.trans⟩
  case strict =>
    rw [older_iff, older_iff, older_iff, older_iff, same_iff]
    refine ⟨lt_trans, ?_⟩
    rcases lt_trichotomy a.places b.places with h | h | h
    · exact .inl ⟨h, h.ne, lt_asymm h⟩
    · exact .inr (.inl ⟨h.not_lt, h, h.not_gt⟩)
    · exact .inr (.inr ⟨lt_asymm h, h.ne', h⟩)
  case others =>
    rw [atMost_iff, newer_iff, atLeast_iff, differs_iff, older_iff, older_iff, same_iff]
    exact ⟨le_iff_lt_or_eq, Iff.rfl, le_iff_lt_or_eq.trans (or_congr_right eq_comm), Iff.rfl⟩
  case zeros =>
    exact fun m n => compare_congr (places_extended a m) (places_extended b n)
  case places =>
    rw [same_iff, older_iff]
    exact ⟨places_eq_iff, places_lt_iff⟩
  case hash =>
    rw [trimmed_eq_iff, ← same_iff]
    refine ⟨Iff.rfl, fun α hash h => ?_⟩
    rw [hashBy, hashBy, trimmed_eq_iff.2 (same_iff.1 h)]
  case features =>
    simp only [hasFeatures, atLeast_iff, atMost_iff]
    exact le_trans

end InstallerKit.Version
