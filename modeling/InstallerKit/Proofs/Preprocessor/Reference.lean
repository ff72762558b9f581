import InstallerKit.Proofs.Preprocessor.Runs

/-!
# References and the dollars outside of them

Which dollars are protected is decided dollar by dollar, by a look at what follows.
References are found in another way: from the left, each up to the first closing
parenthesis, and the search for the next one goes on behind it. The two views agree on
the dollars outside of references, which are all doubled, and on those that references
start with, which are not. A dollar within a reference may open another one, as it looks,
and then stays what it is; otherwise it is doubled, and the reference becomes another one.

* `parts`: the references of a text, and the characters between them;
* `parts_escape`: the parts of a protected text;
* `references_escapeText`: the references of a protected text, and the dollars outside.
-/

namespace InstallerKit.Preprocessor

/-! ### Parts of a text -/

/-- A part of a text. -/
inductive Part
  /-- A character outside of references. -/
  | char (c : Char)
  | reference (name : List Char)
  deriving DecidableEq, Repr

/-- The name of the reference that a text starts with. -/
def leadingName? : List Char → Option (List Char)
  | '$' :: '(' :: cs => if ')' ∈ cs then some (cs.takeWhile (· ≠ ')')) else none
  | _ => none

/-- The parts of a text, after the first `skip` characters, which belong to a reference that
    has been found. -/
def partsFrom : (skip : Nat) → List Char → List Part
  | _, [] => []
  | skip + 1, _ :: cs => partsFrom skip cs
  | 0, c :: cs =>
    match leadingName? (c :: cs) with
    | some name => .reference name :: partsFrom (name.length + 2) cs
    | none => .char c :: partsFrom 0 cs

/-- The parts of a text. References are found from the left and do not overlap. -/
def parts (cs : List Char) : List Part :=
  partsFrom 0 cs

/-- The text of a reference. -/
def Part.reference? : Part → Option (List Char)
  | char _ => none
  | reference name => some ('$' :: '(' :: (name ++ [')']))

def Part.char? : Part → Option Char
  | char c => some c
  | reference _ => none

/-- The references in a text. -/
def references (cs : List Char) : List (List Char) :=
  (parts cs).filterMap Part.reference?

/-- The characters of a text that are in none of its references. -/
def outside (cs : List Char) : List Char :=
  (parts cs).filterMap Part.char?

variable {c : Char} {cs name rest : List Char}

/-- What opens a reference goes on up to the first closing parenthesis. -/
theorem opensReference_iff_first :
    opensReference cs = true ↔ ∃ name rest, cs = '(' :: (name ++ ')' :: rest) ∧ ')' ∉ name := by
  rw [opensReference_iff]
  constructor
  · rintro ⟨name, rest, rfl⟩
    have hmem : ')' ∈ name ++ ')' :: rest := by simp
    obtain ⟨first, more, heq, hfirst⟩ := List.eq_append_cons_of_mem hmem
    exact ⟨first, more, by rw [heq], hfirst⟩
  · rintro ⟨name, rest, rfl, -⟩
    exact ⟨name, rest, rfl⟩

theorem partsFrom_append (cs rest : List Char) : partsFrom cs.length (cs ++ rest) = parts rest := by
  induction cs with
  | nil => rfl
  | cons c cs ih => exact ih

/-- A text starts with a reference if it starts with a dollar that opens one. -/
theorem leadingName?_eq_none_iff :
    leadingName? (c :: cs) = none ↔ (c = '$' → opensReference cs = false) := by
  unfold leadingName?
  split
  · next hcs =>
    obtain ⟨rfl, rfl⟩ := List.cons.inj hcs
    simp [opensReference]
  · next hcs =>
    -- After a dollar there is no parenthesis.
    refine iff_of_true rfl ?_
    rintro rfl
    cases cs with
    | nil => rfl
    | cons d ds =>
      have hd : d ≠ '(' := fun hd => hcs ds (by rw [hd])
      simp [opensReference, hd]

theorem leadingName?_eq_some (h : ')' ∉ name) (rest : List Char) :
    leadingName? ('$' :: '(' :: (name ++ ')' :: rest)) = some name := by
  have hall : ∀ c ∈ name, decide (c ≠ ')') = true := fun c hc =>
    decide_eq_true fun heq => h (heq ▸ hc)
  rw [leadingName?, if_pos (by simp), List.takeWhile_append_of_pos hall]
  simp

theorem parts_char (h : c = '$' → opensReference cs = false) :
    parts (c :: cs) = .char c :: parts cs := by
  rw [parts, partsFrom, leadingName?_eq_none_iff.2 h]
  rfl

theorem parts_reference (h : ')' ∉ name) (rest : List Char) :
    parts ('$' :: '(' :: (name ++ ')' :: rest)) = .reference name :: parts rest := by
  have hskip := partsFrom_append ('(' :: (name ++ [')'])) rest
  simp only [List.cons_append, List.append_assoc, List.nil_append, List.length_cons,
    List.length_append, List.length_nil] at hskip
  rw [parts, partsFrom, leadingName?_eq_some h rest]
  exact congrArg _ hskip

/-- Induction along a text, over references and characters outside of them. -/
theorem byParts {motive : List Char → Prop} (nil : motive [])
    (reference : ∀ name rest, ')' ∉ name → motive rest →
      motive ('$' :: '(' :: (name ++ ')' :: rest)))
    (char : ∀ c cs, (c = '$' → opensReference cs = false) → motive cs → motive (c :: cs))
    (cs : List Char) : motive cs := by
  induction h : cs.length using Nat.strongRecOn generalizing cs with
  | ind n ih =>
    subst h
    cases cs with
    | nil => exact nil
    | cons c cs =>
      by_cases hc : c = '$' ∧ opensReference cs = true
      · obtain ⟨rfl, hopens⟩ := hc
        obtain ⟨name, rest, rfl, hname⟩ := opensReference_iff_first.1 hopens
        refine reference name rest hname (ih rest.length ?_ rest rfl)
        simp only [List.length_cons, List.length_append]
        omega
      · have hc : c = '$' → opensReference cs = false := by simpa using hc
        exact char c cs hc (ih _ (Nat.lt_succ_self _) cs rfl)

/-! ### Parts of a protected text -/

/-- The name of a reference with every dollar doubled that no parenthesis follows. -/
def escapeName : List Char → List Char
  | [] => []
  | c :: cs =>
    if c = '$' ∧ cs.head? ≠ some '(' then '$' :: '$' :: escapeName cs else c :: escapeName cs

/-- The parts that protecting a text makes of a part. -/
def Part.escaped : Part → List Part
  | char c => if c = '$' then [.char '$', .char '$'] else [.char c]
  | reference name => [.reference (escapeName name)]

/-- Within a reference a dollar opens another one as soon as a parenthesis follows it, as
    the closing one is there. -/
theorem escape_close (name rest : List Char) :
    escape (name ++ ')' :: rest) = escapeName name ++ ')' :: escape rest := by
  induction name with
  | nil => rfl
  | cons c cs ih =>
    have hopens : opensReference (cs ++ ')' :: rest) = false ↔ cs.head? ≠ some '(' := by
      rw [← Bool.not_eq_true, opensReference_iff_head?]
      cases cs <;> simp
    simp only [List.cons_append, escape, escapeName, hopens, ih]
    split <;> rfl

theorem escape_reference (name rest : List Char) :
    escape ('$' :: '(' :: (name ++ ')' :: rest)) =
      '$' :: '(' :: (escapeName name ++ ')' :: escape rest) := by
  have hopens : opensReference ('(' :: (name ++ ')' :: rest)) = true :=
    opensReference_iff.2 ⟨name, rest, rfl⟩
  rw [escape, if_neg (by simp [hopens]), escape, if_neg (by simp), escape_close]

theorem not_mem_escapeName (h : ')' ∉ name) : ')' ∉ escapeName name := by
  induction name with
  | nil => exact h
  | cons c cs ih =>
    simp only [List.mem_cons, not_or] at h
    rw [escapeName]
    split <;> simp [h.1, ih h.2]

theorem opensReference_escape (cs : List Char) :
    opensReference (escape cs) = opensReference cs := by
  rw [Bool.eq_iff_iff, opensReference_iff_head?, opensReference_iff_head?, escape_eq_resize,
    head?_resize (runLength_pos 1), mem_resize_iff (by decide)]

theorem parts_escape (cs : List Char) : parts (escape cs) = (parts cs).flatMap Part.escaped := by
  induction cs using byParts with
  | nil => rfl
  | reference name rest hname ih =>
    rw [escape_reference, parts_reference (not_mem_escapeName hname), parts_reference hname, ih]
    rfl
  | char c cs hc ih =>
    rw [parts_char hc, List.flatMap_cons, Part.escaped, escape]
    by_cases hd : c = '$'
    · -- Neither of the two dollars opens a reference in the protected text.
      have hopens : opensReference (escape cs) = false := (opensReference_escape cs).trans (hc hd)
      rw [if_pos ⟨hd, hc hd⟩, if_pos hd, parts_char fun _ => rfl, parts_char fun _ => hopens, ih]
      rfl
    · rw [if_neg fun h => hd h.1, if_neg hd, parts_char fun h => absurd h hd, ih]
      rfl

/-- The references of a protected text are the protected references. -/
theorem references_escape (cs : List Char) :
    references (escape cs) = (references cs).map escape := by
  rw [references, references, parts_escape]
  induction parts cs with
  | nil => rfl
  | cons p ps ih =>
    rw [List.flatMap_cons, List.filterMap_append, ih]
    cases p with
    | char c =>
      rw [Part.escaped]
      split <;> rfl
    | reference name =>
      have hescape := escape_reference name []
      rw [Part.escaped, List.filterMap_cons, List.filterMap_cons, Part.reference?,
        Part.reference?, List.map_cons, hescape]
      rfl

/-- Every dollar outside of references is doubled, and nothing else changes there. -/
theorem outside_escape (cs : List Char) :
    outside (escape cs) = (outside cs).flatMap fun c => if c = '$' then ['$', '$'] else [c] := by
  rw [outside, outside, parts_escape]
  induction parts cs with
  | nil => rfl
  | cons p ps ih =>
    rw [List.flatMap_cons, List.filterMap_append, ih]
    cases p with
    | char c =>
      rw [Part.escaped]
      split <;> simp [Part.char?, *]
    | reference name => rfl

theorem count_outside_escape (cs : List Char) :
    (outside (escape cs)).count '$' = 2 * (outside cs).count '$' := by
  rw [outside_escape]
  induction outside cs with
  | nil => rfl
  | cons c cs ih =>
    rw [List.flatMap_cons, List.count_append, ih]
    by_cases hc : c = '$'
    · subst hc
      simp only [↓reduceIte, List.count_cons_self, List.count_nil]
      omega
    · rw [if_neg hc, List.count_cons_of_ne hc, List.count_cons_of_ne hc, List.count_nil,
        Nat.zero_add]

/-- Every reference in a text ends with a parenthesis. -/
theorem exists_name_of_mem_references {r : List Char} (h : r ∈ references cs) :
    ∃ name, r = '$' :: '(' :: (name ++ [')']) := by
  obtain ⟨p, -, hp⟩ := List.mem_filterMap.1 h
  cases p with
  | char c => cases hp
  | reference name => exact ⟨name, (Option.some.inj hp).symm⟩

/-- A reference is its own protected form if a parenthesis follows each dollar in it. -/
theorem escape_reference_eq_self_iff (name : List Char) :
    escape ('$' :: '(' :: (name ++ [')'])) = '$' :: '(' :: (name ++ [')']) ↔
      ∀ after, '$' :: after <:+ '$' :: '(' :: (name ++ [')']) → after.head? = some '(' := by
  rw [escape_eq_self_iff]
  refine forall_congr' fun after => imp_congr_right fun hafter => ?_
  rw [opensReference_iff_head?]
  refine and_iff_left_of_imp fun hhead => ?_
  -- What comes after a dollar ends with the parenthesis that the reference ends with.
  obtain ⟨before, hbefore⟩ := hafter
  rcases List.eq_nil_or_concat after with rfl | ⟨init, x, rfl⟩
  · cases hhead
  · have hlast : (before ++ '$' :: init) ++ [x] = ('$' :: '(' :: name) ++ [')'] := by
      simpa using hbefore
    rw [List.concat_eq_append, (List.append_inj' hlast rfl).2]
    simp

/-- The references of a protected text are the protected references, in their order. They are
    what they were if, and only if, within the references a parenthesis follows each dollar.
    Outside of references there are twice as many dollars as before, whatever the text is. -/
theorem references_escapeText (s : String) :
    references (escapeText s).toList = (references s.toList).map escape ∧
    (references (escapeText s).toList = references s.toList ↔
      ∀ r ∈ references s.toList, ∀ after, '$' :: after <:+ r → after.head? = some '(') ∧
    (outside (escapeText s).toList).count '$' = 2 * (outside s.toList).count '$' := by
  rw [toList_escapeText, references_escape]
  refine ⟨rfl, ?_, count_outside_escape _⟩
  have hself : (references s.toList).map escape = references s.toList ↔
      ∀ r ∈ references s.toList, escape r = r := by
    conv_lhs => rhs; rw [← List.map_id (references s.toList)]
    rw [List.map_inj_left]
    rfl
  rw [hself]
  refine forall₂_congr fun r hr => ?_
  obtain ⟨name, rfl⟩ := exists_name_of_mem_references hr
  exact escape_reference_eq_self_iff name

/-- A dollar within a reference is doubled, and the reference is another one. -/
theorem references_escapeText_of_inner_dollar :
    escapeText "$(a$b)" = "$(a$$b)" ∧
      references (escapeText "$(a$b)").toList ≠ references "$(a$b)".toList := by
  decide

end InstallerKit.Preprocessor
