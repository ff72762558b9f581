/-!
# Blank characters

Two classes: *blank* characters, which are stripped from the ends of a text,
and *line breaks*, at which a text falls into lines. Every line break is blank,
so a stripped text that is not empty has a first line that is not empty.

* `isBlank_of_isLineBreak`: line breaks are blank;
* `strip_eq_nil_iff`: a text strips to nothing exactly if it is all blank.
-/

namespace InstallerKit.Text

/-- The characters that count as white space. -/
def isBlank (c : Char) : Bool :=
  let n := c.toNat
  (9 ≤ n && n ≤ 13) || (28 ≤ n && n ≤ 32) || n == 0x85 || n == 0xa0 || n == 0x1680 ||
    (0x2000 ≤ n && n ≤ 0x200a) || n == 0x2028 || n == 0x2029 || n == 0x202f ||
    n == 0x205f || n == 0x3000

/-- The characters that end a line. -/
def isLineBreak (c : Char) : Bool :=
  let n := c.toNat
  (10 ≤ n && n ≤ 13) || (28 ≤ n && n ≤ 30) || n == 0x85 || n == 0x2028 || n == 0x2029

theorem isBlank_of_isLineBreak {c : Char} (h : isLineBreak c) : isBlank c := by
  simp only [isLineBreak, isBlank, Bool.or_eq_true, Bool.and_eq_true, decide_eq_true_eq,
    beq_iff_eq] at *
  omega

/-- The text without the blanks at its two ends. -/
def strip (cs : List Char) : List Char :=
  ((cs.dropWhile isBlank).reverse.dropWhile isBlank).reverse

/-- The text up to its first line break. -/
def firstLine (cs : List Char) : List Char :=
  cs.takeWhile fun c => !isLineBreak c

theorem dropWhile_eq_nil_iff {p : Char → Bool} {cs : List Char} :
    cs.dropWhile p = [] ↔ ∀ c ∈ cs, p c = true := by
  induction cs with
  | nil => simp
  | cons c cs ih => by_cases h : p c <;> simp [h, ih]

theorem strip_eq_nil_iff {cs : List Char} : strip cs = [] ↔ ∀ c ∈ cs, isBlank c = true := by
  rw [strip, List.reverse_eq_nil_iff, dropWhile_eq_nil_iff]
  constructor
  · intro h
    -- The text without its leading blanks is all blank, and starts with no
    -- blank: it is empty.
    rw [← dropWhile_eq_nil_iff]
    match hd : cs.dropWhile isBlank with
    | [] => rfl
    | c :: r =>
      have hc := List.head?_dropWhile_not isBlank cs
      rw [hd] at hc h
      simp only [List.head?_cons] at hc
      have := h c (by simp)
      simp [this] at hc
  · intro h c hc
    rw [dropWhile_eq_nil_iff.2 h] at hc
    simp at hc

end InstallerKit.Text
