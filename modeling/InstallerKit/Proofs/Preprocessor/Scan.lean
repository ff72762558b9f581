import InstallerKit.Preprocessor

/-!
# The preprocessor's scan

The preprocessor scans a source from left to right: two dollars are a literal one, a
dollar and a parenthesis are a reference up to the next closing parenthesis, and any
other character stands for itself. A dollar that is neither, and a reference that is
not closed, are errors.

A text is scanned to its end, or not at all. So the scan of one text after another is
the one scan after the other, and no reference can arise from pieces of both. What
`escape` makes of a text can be scanned, also if characters other than dollars and
parentheses have been spelled in another way since.

* `scan_append`: two texts are scanned one after the other;
* `spell_scan`: a scan forgets nothing of the text;
* `Respelled.scan_escape`: a protected text can be scanned.
-/

namespace InstallerKit.Preprocessor

/-- What the preprocessor finds in a source. -/
inductive Piece
  | char (c : Char)
  /-- Two dollars, which are a literal one. -/
  | dollar
  | reference (name : List Char)
  deriving DecidableEq, Repr

/-- The text of a piece. -/
def Piece.spell : Piece → List Char
  | char c => [c]
  | dollar => ['$', '$']
  | reference name => '$' :: '(' :: name ++ [')']

/-- Where the scan is. -/
inductive Place
  | text
  /-- After a dollar. -/
  | dollar
  /-- In a reference. -/
  | reference (name : List Char)

/-- The pieces of a source from a place on; none if there is an error in it. -/
def scanFrom : Place → List Char → Option (List Piece)
  | .text, [] => some []
  | .dollar, [] => none
  | .reference _, [] => none
  | .text, c :: cs =>
    if c = '$' then scanFrom .dollar cs else (scanFrom .text cs).map (.char c :: ·)
  | .dollar, c :: cs =>
    if c = '$' then (scanFrom .text cs).map (.dollar :: ·)
    else if c = '(' then scanFrom (.reference []) cs
    else none
  | .reference name, c :: cs =>
    if c = ')' then (scanFrom .text cs).map (.reference name :: ·)
    else scanFrom (.reference (name ++ [c])) cs

/-- The pieces of a source; none if there is an error in it. -/
def scan (cs : List Char) : Option (List Piece) :=
  scanFrom .text cs

/-- A scan that has come to its end goes on with what follows. -/
theorem scanFrom_append {p : Place} {cs : List Char} {ps : List Piece}
    (h : scanFrom p cs = some ps) (ds : List Char) :
    scanFrom p (cs ++ ds) = (scan ds).map (ps ++ ·) := by
  induction cs generalizing p ps with
  | nil =>
    -- A scan does not come to its end in a reference or after a dollar.
    cases p <;> simp only [scanFrom, reduceCtorEq, Option.some.injEq] at h
    subst h
    simp [scan]
  | cons c cs ih =>
    rw [List.cons_append]
    cases p with
    | text =>
      rw [scanFrom] at h ⊢
      split
      · next hc => rw [if_pos hc] at h; exact ih h
      · next hc =>
        rw [if_neg hc, Option.map_eq_some_iff] at h
        obtain ⟨qs, hq, rfl⟩ := h
        rw [ih hq]
        simp [Function.comp_def]
    | dollar =>
      rw [scanFrom] at h ⊢
      split
      · next hc =>
        rw [if_pos hc, Option.map_eq_some_iff] at h
        obtain ⟨qs, hq, rfl⟩ := h
        rw [ih hq]
        simp [Function.comp_def]
      · next hc =>
        rw [if_neg hc] at h
        split at h
        · next hp => rw [if_pos hp]; exact ih h
        · cases h
    | reference name =>
      rw [scanFrom] at h ⊢
      split
      · next hc =>
        rw [if_pos hc, Option.map_eq_some_iff] at h
        obtain ⟨qs, hq, rfl⟩ := h
        rw [ih hq]
        simp [Function.comp_def]
      · next hc => rw [if_neg hc] at h; exact ih h

/-- Two texts are scanned one after the other. -/
theorem scan_append {cs ds : List Char} {ps qs : List Piece} (h : scan cs = some ps)
    (h' : scan ds = some qs) : scan (cs ++ ds) = some (ps ++ qs) := by
  rw [scan, scanFrom_append h, h']
  rfl

/-- The part of a source before a place that belongs to no piece yet. -/
def Place.spell : Place → List Char
  | text => []
  | dollar => ['$']
  | reference name => '$' :: '(' :: name

theorem spell_scanFrom {p : Place} {cs : List Char} {ps : List Piece}
    (h : scanFrom p cs = some ps) : ps.flatMap Piece.spell = p.spell ++ cs := by
  induction cs generalizing p ps with
  | nil =>
    cases p <;> simp only [scanFrom, reduceCtorEq, Option.some.injEq] at h
    subst h
    rfl
  | cons c cs ih =>
    cases p with
    | text =>
      rw [scanFrom] at h
      split at h
      · next hc => rw [ih h, hc]; rfl
      · rw [Option.map_eq_some_iff] at h
        obtain ⟨qs, hq, rfl⟩ := h
        rw [List.flatMap_cons, ih hq]
        rfl
    | dollar =>
      rw [scanFrom] at h
      split at h
      · next hc =>
        rw [Option.map_eq_some_iff] at h
        obtain ⟨qs, hq, rfl⟩ := h
        rw [List.flatMap_cons, ih hq, hc]
        rfl
      · split at h
        · next hc => rw [ih h, hc]; rfl
        · cases h
    | reference name =>
      rw [scanFrom] at h
      split at h
      · next hc =>
        rw [Option.map_eq_some_iff] at h
        obtain ⟨qs, hq, rfl⟩ := h
        rw [List.flatMap_cons, ih hq, hc]
        simp [Piece.spell, Place.spell]
      · rw [ih h]
        simp [Place.spell]

/-- A scan forgets nothing of the text. -/
theorem spell_scan {cs : List Char} {ps : List Piece} (h : scan cs = some ps) :
    ps.flatMap Piece.spell = cs :=
  spell_scanFrom h

/-! ### Texts without dollars -/

/-- Characters that are no dollars stand for themselves. -/
theorem scanFrom_text_append {cs : List Char} (h : '$' ∉ cs) (ds : List Char) :
    scanFrom .text (cs ++ ds) = (scanFrom .text ds).map (cs.map .char ++ ·) := by
  induction cs with
  | nil => simp
  | cons c cs ih =>
    simp only [List.mem_cons, not_or] at h
    rw [List.cons_append, scanFrom, if_neg (Ne.symm h.1), ih h.2]
    simp [Function.comp_def]

theorem scan_of_not_mem {cs : List Char} (h : '$' ∉ cs) : scan cs = some (cs.map .char) := by
  have := scanFrom_text_append h []
  rw [List.append_nil] at this
  simpa [scan, scanFrom] using this

theorem scanFrom_reference_append {cs : List Char} (h : ')' ∉ cs) (name ds : List Char) :
    scanFrom (.reference name) (cs ++ ds) = scanFrom (.reference (name ++ cs)) ds := by
  induction cs generalizing name with
  | nil => simp
  | cons c cs ih =>
    simp only [List.mem_cons, not_or] at h
    rw [List.cons_append, scanFrom, if_neg (Ne.symm h.1), ih h.2]
    simp

/-! ### Protected texts -/

/-- The second text is the first one, but characters other than dollars and parentheses
    may be spelled in another way, without those. -/
inductive Respelled : List Char → List Char → Prop
  | nil : Respelled [] []
  | same {c : Char} {cs ds : List Char} (tail : Respelled cs ds) : Respelled (c :: cs) (c :: ds)
  | other {c : Char} {u cs ds : List Char} (ne : c ≠ '$' ∧ c ≠ '(' ∧ c ≠ ')')
      (free : '$' ∉ u ∧ ')' ∉ u) (tail : Respelled cs ds) : Respelled (c :: cs) (u ++ ds)

namespace Respelled

variable {c : Char} {cs ds : List Char}

theorem cons_inv (h : Respelled (c :: cs) ds) :
    ∃ u es, ds = u ++ es ∧ Respelled cs es ∧ ('$' ∈ u → c = '$') ∧ (')' ∈ u → c = ')') ∧
      (c = '$' ∨ c = '(' ∨ c = ')' → u = [c]) := by
  cases h with
  | same tail => exact ⟨[c], _, rfl, tail, by simp [eq_comm], by simp [eq_comm], fun _ => rfl⟩
  | other ne free tail =>
    refine ⟨_, _, rfl, tail, fun h => absurd h free.1, fun h => absurd h free.2, fun h => ?_⟩
    rcases h with h | h | h
    · exact absurd h ne.1
    · exact absurd h ne.2.1
    · exact absurd h ne.2.2

/-- Dollars and parentheses are what they are. -/
theorem cons_mark (h : Respelled (c :: cs) ds) (hc : c = '$' ∨ c = '(' ∨ c = ')') :
    ∃ es, ds = c :: es ∧ Respelled cs es := by
  obtain ⟨u, es, rfl, ht, -, -, hu⟩ := h.cons_inv
  exact ⟨es, by rw [hu hc]; rfl, ht⟩

theorem not_mem (h : Respelled cs ds) (hc : '$' ∉ cs) : '$' ∉ ds := by
  induction h with
  | nil => exact hc
  | same tail ih =>
    simp only [List.mem_cons, not_or] at hc ⊢
    exact ⟨hc.1, ih hc.2⟩
  | other ne free tail ih =>
    simp only [List.mem_cons, not_or, List.mem_append] at hc ⊢
    exact ⟨free.1, ih hc.2⟩

/-- A protected text can be scanned; what follows a dollar that opens a reference, and
    what has a closing parenthesis in a reference, too. -/
theorem scanFrom_escape (h : Respelled (escape cs) ds) :
    (scanFrom .text ds).isSome ∧
      (opensReference cs = true → (scanFrom .dollar ds).isSome) ∧
      (')' ∈ cs → ∀ name, (scanFrom (.reference name) ds).isSome) := by
  induction cs generalizing ds with
  | nil =>
    cases h
    simp [scanFrom, opensReference]
  | cons c cs ih =>
    rw [escape] at h
    split at h
    · next hc =>
      -- The dollar is doubled.
      obtain ⟨rfl, -⟩ := hc
      obtain ⟨es, rfl, h₁⟩ := h.cons_mark (.inl rfl)
      obtain ⟨fs, rfl, h₂⟩ := h₁.cons_mark (.inl rfl)
      obtain ⟨htext, -, hreference⟩ := ih h₂
      refine ⟨by simpa [scanFrom] using htext, fun ho => ?_, fun hm name => ?_⟩
      · simp [opensReference] at ho
      · simp [scanFrom, hreference (by simpa using hm)]
    · next hc =>
      -- A dollar that is not doubled opens a reference, and that one is closed in the text.
      obtain ⟨u, es, rfl, ht, hdollar, hclose, hmark⟩ := h.cons_inv
      obtain ⟨htext, hopen, hreference⟩ := ih ht
      refine ⟨?_, fun ho => ?_, fun hm name => ?_⟩
      · by_cases hd : c = '$'
        · subst hd
          rw [hmark (.inl rfl)]
          simpa [scanFrom] using hopen (by simpa using hc)
        · rw [scanFrom_text_append fun hu => hd (hdollar hu)]
          simpa using htext
      · simp only [opensReference, Bool.and_eq_true, beq_iff_eq, List.contains_iff_mem] at ho
        obtain ⟨rfl, ho⟩ := ho
        rw [hmark (.inr (.inl rfl))]
        simpa [scanFrom] using hreference ho []
      · by_cases hd : c = ')'
        · subst hd
          rw [hmark (.inr (.inr rfl))]
          simpa [scanFrom] using htext
        · rw [scanFrom_reference_append fun hu => hd (hclose hu)]
          exact hreference (by simpa [Ne.symm hd] using hm) _

/-- A protected text can be scanned. -/
theorem scan_escape (h : Respelled (escape cs) ds) : ∃ ps, scan ds = some ps :=
  Option.isSome_iff_exists.1 h.scanFrom_escape.1

/-- A text in which each character is spelled on its own. -/
theorem flatMap {f : Char → List Char}
    (h : ∀ c, f c = [c] ∨ (c ≠ '$' ∧ c ≠ '(' ∧ c ≠ ')') ∧ '$' ∉ f c ∧ ')' ∉ f c)
    (cs : List Char) : Respelled cs (cs.flatMap f) := by
  induction cs with
  | nil => exact .nil
  | cons c cs ih =>
    rw [List.flatMap_cons]
    rcases h c with hc | ⟨ne, free⟩
    · rw [hc]
      exact .same ih
    · exact .other ne free ih

end Respelled

end InstallerKit.Preprocessor
