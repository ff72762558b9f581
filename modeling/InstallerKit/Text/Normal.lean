import InstallerKit.Text.Normal.Equal
import InstallerKit.Text.Normal.Joined
import InstallerKit.Text.Normal.Rank

/-!
# The normal form of a text

Texts that mean the same may be spelled in many ways. The normal form of a text has one
spelling: every character is taken apart into all that it stands for, the marks after a
letter are put in order, and letters are joined with their marks again.
-/

namespace InstallerKit.Text.Normal

/-- The characters that differ from the tables at some time. -/
structure Edition where
  /-- Characters that stand for nothing but themselves. -/
  kept : Ranges
  /-- Characters that stand for another single one. -/
  changed : List (Char × Char)

/-- The tables as they are. -/
def Edition.current : Edition := ⟨[], []⟩

/-- The letters of a syllable of Hangul: a consonant, a vowel, and perhaps another
    consonant. -/
def syllableParts (c : Char) : List Char :=
  let n := c.toNat - 0xac00
  let last := n % 28
  [.ofNat (0x1100 + n / 588), .ofNat (0x1161 + n % 588 / 28)] ++
    (if last = 0 then [] else [.ofNat (0x11a7 + last)])

/-- The syllable of Hangul that a text starts with, and what comes after it. -/
def syllable? : List Char → Option (Char × List Char)
  | c :: v :: cs =>
    if 0x1100 ≤ c.toNat && c.toNat ≤ 0x1112 && 0x1161 ≤ v.toNat && v.toNat ≤ 0x1175 then
      let syllable := 0xac00 + 588 * (c.toNat - 0x1100) + 28 * (v.toNat - 0x1161)
      match cs.head?.map fun t => t.toNat - 0x11a7 with
      | some last =>
        if 0 < last && last < 28 then some (.ofNat (syllable + last), cs.drop 1)
        else some (.ofNat syllable, cs)
      | none => some (.ofNat syllable, cs)
    else none
  | _ => none

theorem syllable?_length {cs rest : List Char} {s : Char} (h : syllable? cs = some (s, rest)) :
    rest.length < cs.length := by
  match cs with
  | [] => simp [syllable?] at h
  | [c] => simp [syllable?] at h
  | c :: v :: cs =>
    unfold syllable? at h
    grind

/-- All that a character stands for, taken apart at most `fuel` times. -/
def Edition.partsWithin (e : Edition) : (fuel : Nat) → Char → List Char
  | 0, c => [c]
  | fuel + 1, c =>
    if c.toNat < 0x80 || e.kept.contains c.toNat then [c]
    else if 0xac00 ≤ c.toNat && c.toNat ≤ 0xd7a3 then syllableParts c
    else
      match e.changed.lookup c, meaning? c, parted? c with
      | some d, _, _ => [d]
      | none, some ds, _ => ds
      | none, none, some (letter, mark) => e.partsWithin fuel letter ++ [mark]
      | none, none, none => [c]

/-- All that a character stands for. No letter has more than four marks. -/
def Edition.parts (e : Edition) (c : Char) : List Char :=
  e.partsWithin 5 c

/-- Puts a character before a text, or behind the marks of lower ranks there. -/
def insertMark (c : Char) : List Char → List Char
  | [] => [c]
  | d :: ds => if 0 < rank d && rank d < rank c then d :: insertMark c ds else c :: d :: ds

/-- A text with its marks in order. -/
def ordered (cs : List Char) : List Char :=
  cs.foldr insertMark []

/-- A letter joined with the marks after it that reach it, and the text that is left
    then. `between` is the rank of the last mark that stays in between. -/
def absorb (c : Char) (between : Nat) : List Char → Char × List Char
  | [] => (c, [])
  | m :: ms =>
    let r := rank m
    let pass (between : Nat) : Char × List Char :=
      let (d, rest) := absorb c between ms
      (d, m :: rest)
    if 0 < between && r = 0 then (c, m :: ms)
    else if 0 < between && r ≤ between then pass between
    else
      match joined? c m with
      | some d => absorb d between ms
      | none => if r = 0 then (c, m :: ms) else pass r

theorem absorb_length (c : Char) (between : Nat) (cs : List Char) :
    (absorb c between cs).2.length ≤ cs.length := by
  induction cs generalizing c between with
  | nil => simp [absorb]
  | cons m ms ih =>
    unfold absorb
    grind

/-- A text with its letters and marks joined. -/
def joinAll : List Char → List Char
  | [] => []
  | c :: cs =>
    match _h : syllable? (c :: cs) with
    | some (s, rest) => s :: joinAll rest
    | none =>
      let joined := absorb c 0 cs
      joined.1 :: joinAll joined.2
  termination_by cs => cs.length
  decreasing_by
    · have := syllable?_length _h
      simpa using this
    · have := absorb_length c 0 cs
      simp
      omega

/-- The normal form of a text. -/
def Edition.form (e : Edition) (cs : List Char) : List Char :=
  joinAll (ordered (cs.flatMap e.parts))

end InstallerKit.Text.Normal
