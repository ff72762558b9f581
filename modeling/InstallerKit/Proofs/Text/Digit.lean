import InstallerKit.Text.Blank
import InstallerKit.Text.Digit
import Mathlib.Data.List.Induction
import Mathlib.Data.Nat.Digits.Defs

/-!
# Numerals

A numeral is read from its most significant digit on, which gives the number that its digits
denote in the decimal system. Zeros in front make no difference. No digit is blank, so that a
text that starts and ends with digits has nothing to be stripped of.

* `numeralValue_eq`: the number of a numeral;
* `isBlank_of_isDigit`: digits are not blank.
-/

namespace InstallerKit.Text

variable {c : Char} {cs : List Char}

/-- What a digit is worth. -/
def worth (c : Char) : ℕ :=
  (digitValue? c).getD 0

theorem numeralValue_append_singleton (cs : List Char) (c : Char) :
    numeralValue (cs ++ [c]) = worth c + 10 * numeralValue cs := by
  rw [numeralValue, List.foldl_append, Nat.add_comm]
  rfl

/-- A numeral denotes its number in the decimal system, whose digits go up from the last one. -/
theorem numeralValue_eq (cs : List Char) :
    numeralValue cs = Nat.ofDigits 10 (cs.reverse.map worth) := by
  induction cs using List.reverseRecOn with
  | nil => rfl
  | append_singleton cs c ih =>
    rw [numeralValue_append_singleton, ih, List.reverse_append, List.reverse_singleton,
      List.singleton_append, List.map_cons, Nat.ofDigits_cons]

theorem numeralValue_cons_zero (hc : worth c = 0) (cs : List Char) :
    numeralValue (c :: cs) = numeralValue cs := by
  rw [numeralValue_eq, numeralValue_eq, List.reverse_cons, List.map_append, List.map_singleton, hc,
    Nat.ofDigits_append_zero]

/-- The digits of a script lie between blanks, away from all of them. -/
theorem between_of_mem_zeros {z : ℕ} (hz : z ∈ zeros) :
    z = 0x30 ∨ 0xa0 < z ∧ z + 9 < 0x1680 ∨ 0x1680 < z ∧ z + 9 < 0x2000 ∨ 0x3000 < z := by
  revert z
  decide

theorem isBlank_of_isDigit (h : isDigit c = true) : isBlank c = false := by
  rw [isDigit, digitValue?, Option.isSome_map, Option.isSome_iff_exists] at h
  obtain ⟨z, hz⟩ := h
  have hbetween := between_of_mem_zeros (List.mem_of_find?_eq_some hz)
  have hrange := List.find?_some hz
  rw [Bool.and_eq_true, decide_eq_true_eq, decide_eq_true_eq] at hrange
  simp only [isBlank, Bool.or_eq_false_iff, Bool.and_eq_false_iff, decide_eq_false_iff_not,
    beq_eq_false_iff_ne]
  omega

end InstallerKit.Text
