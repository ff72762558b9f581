import InstallerKit.Proofs.Text.Replacement
import Mathlib.Data.List.Find
import Mathlib.Data.List.Nodup

/-!
# Replacing several texts at once

To replace several patterns at once, a text is read once, from the left. Where a pattern begins
it is cut out, which leaves a slot, and the reading goes on behind it. Then every slot is filled
with the value of its pattern.

To replace pattern after pattern is to fill the slots of one pattern after those of another one,
as long as a pattern does not occur anywhere else when its turn comes. It may, since the values
that have been filled in by then are read again, together with what is around them.

* `parts`, `filled`, `replaceEach`: the cut, and its slots filled;
* `replaceAll_filled`: to replace a pattern that occurs in its slots only fills these slots;
* `replaceInTurn_eq`: pattern after pattern, `Undisturbed` by what has been filled in;
* `undisturbed_of_areInert`: values that have nothing in common with the later patterns;
* `replaceEach_perm`: the order of the patterns does not matter when all go at once.
-/

namespace InstallerKit.Text

/-! ### The parts of a text -/

/-- A part of a text that is cut where patterns begin. -/
inductive Part
  | char (c : Char)
  /-- The place of a pattern. -/
  | slot (pattern : List Char)
  deriving DecidableEq, Repr

/-- The parts of a text, after the first `skip` characters, which belong to a pattern that has
    been cut out. -/
def partsFrom (patterns : List (List Char)) : (skip : Nat) → List Char → List Part
  | _, [] => []
  | skip + 1, _ :: cs => partsFrom patterns skip cs
  | 0, c :: cs =>
    -- Of patterns that are apart, no two begin in the same place.
    match patterns.find? (·.isPrefixOf (c :: cs)) with
    | some p => .slot p :: partsFrom patterns (p.length - 1) cs
    | none => .char c :: partsFrom patterns 0 cs

/-- The parts of a text. -/
def parts (patterns : List (List Char)) (cs : List Char) : List Part :=
  partsFrom patterns 0 cs

/-- What is in the place of a part, with some patterns replaced: every other pattern is still
    in its slot. -/
def Part.fill (rules : List (List Char × List Char)) : Part → List Char
  | char c => [c]
  | slot p =>
    match rules.find? (·.1 = p) with
    | some r => r.2
    | none => p

def filled (rules : List (List Char × List Char)) (ps : List Part) : List Char :=
  ps.flatMap (Part.fill rules)

/-- A text with all patterns replaced at once. -/
def replaceEach (rules : List (List Char × List Char)) (cs : List Char) : List Char :=
  filled rules (parts (rules.map Prod.fst) cs)

/-- Patterns that are not empty, and of which no two occurrences have anything in common. -/
structure AreApart (patterns : List (List Char)) : Prop where
  ne_nil : ∀ p ∈ patterns, p ≠ []
  self : ∀ p ∈ patterns, ¬ MayBegin p p.tail
  other : ∀ p ∈ patterns, ∀ q ∈ patterns, p ≠ q → ¬ MayBegin p q

/-- Parts that a text is cut into: a pattern never begins at a character that is on its own. -/
inductive IsCut (patterns : List (List Char)) : List Part → Prop
  | nil : IsCut patterns []
  | char {c ps} : (∀ p ∈ patterns, ¬ p <+: c :: filled [] ps) → IsCut patterns ps →
      IsCut patterns (.char c :: ps)
  | slot {p ps} : p ∈ patterns → IsCut patterns ps → IsCut patterns (.slot p :: ps)

variable {patterns : List (List Char)} {done rules : List (List Char × List Char)}
  {p q v cs : List Char} {ps : List Part}

theorem filled_cons (part : Part) (ps : List Part) :
    filled rules (part :: ps) = part.fill rules ++ filled rules ps :=
  List.flatMap_cons

theorem find?_eq_none_of_not_mem (h : q ∉ done.map Prod.fst) : done.find? (·.1 = q) = none :=
  List.find?_eq_none.2 fun r hr => by
    simpa using fun heq : r.1 = q => h (heq ▸ List.mem_map_of_mem hr)

theorem fill_slot_of_not_mem (h : q ∉ done.map Prod.fst) : (Part.slot q).fill done = q := by
  rw [Part.fill, find?_eq_none_of_not_mem h]

theorem fill_slot_of_mem (h : q ∈ done.map Prod.fst) :
    ∃ r ∈ done, (Part.slot q).fill done = r.2 := by
  obtain ⟨r, hr, rfl⟩ := List.mem_map.1 h
  cases hfind : done.find? (·.1 = r.1) with
  | none => simpa using List.find?_eq_none.1 hfind r hr
  | some r' => exact ⟨r', List.mem_of_find?_eq_some hfind, by rw [Part.fill, hfind]⟩

/-- The parts of a text make up the text. -/
theorem filled_nil_partsFrom (hne : ∀ p ∈ patterns, p ≠ []) (skip : Nat) (cs : List Char) :
    filled [] (partsFrom patterns skip cs) = cs.drop skip := by
  induction skip, cs using partsFrom.induct patterns with
  | case1 skip => simp [partsFrom, filled]
  | case2 skip c cs ih => rw [partsFrom, ih, List.drop_succ_cons]
  | case3 c cs p hp ih =>
    -- The pattern is what stands before the place where the reading goes on.
    have hbegins := List.find?_some hp
    obtain ⟨rest, hrest⟩ := List.isPrefixOf_iff_prefix.1 hbegins
    obtain ⟨d, ds, rfl⟩ := List.exists_cons_of_ne_nil (hne p (List.mem_of_find?_eq_some hp))
    obtain ⟨rfl, rfl⟩ := List.cons.inj hrest
    rw [partsFrom, hp]
    simp only [filled_cons, ih]
    simp [Part.fill]
  | case4 c cs hnone ih =>
    rw [partsFrom, hnone]
    simp only [filled_cons, ih]
    rfl

theorem filled_nil_parts (hne : ∀ p ∈ patterns, p ≠ []) (cs : List Char) :
    filled [] (parts patterns cs) = cs :=
  filled_nil_partsFrom hne 0 cs

theorem isCut_partsFrom (hne : ∀ p ∈ patterns, p ≠ []) (skip : Nat) (cs : List Char) :
    IsCut patterns (partsFrom patterns skip cs) := by
  induction skip, cs using partsFrom.induct patterns with
  | case1 skip => rw [partsFrom]; exact .nil
  | case2 skip c cs ih => rwa [partsFrom]
  | case3 c cs p hp ih =>
    rw [partsFrom, hp]
    exact .slot (List.mem_of_find?_eq_some hp) ih
  | case4 c cs hnone ih =>
    rw [partsFrom, hnone]
    refine .char (fun p hp hbegins => ?_) ih
    rw [filled_nil_partsFrom hne, List.drop_zero] at hbegins
    exact List.find?_eq_none.1 hnone p hp (List.isPrefixOf_iff_prefix.2 hbegins)

/-! ### Occurrences in a text that is being filled -/

/-- A pattern that goes on into slots that have been filled would go on into them as they were,
    as it does not go on into the values. -/
theorem prefix_of_prefix_filled (hdone : ∀ r ∈ done, ¬ MayBegin r.2 p.tail) {before : List Char}
    (hbefore : before ≠ []) (h : p <+: before ++ filled done ps) :
    p <+: before ++ filled [] ps := by
  -- What is the same in both texts is moved to the part before them.
  induction ps generalizing before with
  | nil => exact h
  | cons part ps ih =>
    rw [filled_cons] at h ⊢
    cases part with
    | char c =>
      rw [← List.append_assoc] at h ⊢
      exact ih (by simp [hbefore]) h
    | slot q =>
      by_cases hq : q ∈ done.map Prod.fst
      · obtain ⟨r, hr, hfill⟩ := fill_slot_of_mem hq
        rw [hfill] at h
        rcases prefix_or_mayBegin hbefore h with hend | hmay
        · exact hend.trans (List.prefix_append ..)
        · exact absurd hmay (hdone r hr)
      · rw [fill_slot_of_not_mem hq, ← List.append_assoc] at h
        rw [fill_slot_of_not_mem (by simp), ← List.append_assoc]
        exact ih (by simp [hbefore]) h

/-- A pattern whose turn is still to come is in its slots. -/
theorem count_le_occurrences (hp : p ≠ []) (hturn : p ∉ done.map Prod.fst) (ps : List Part) :
    ps.count (.slot p) ≤ occurrences p (filled done ps) := by
  induction ps with
  | nil => exact Nat.zero_le _
  | cons part ps ih =>
    rw [filled_cons, occurrences_append, List.count_cons]
    by_cases hpart : part = .slot p
    · rw [hpart, fill_slot_of_not_mem hturn, beginnings_self hp, beq_self_eq_true, if_pos rfl]
      omega
    · rw [if_neg (by simpa using hpart)]
      omega

/-- A pattern whose turn is still to come is in its slots only, if it has nothing in common with
    the values of the other ones. -/
theorem occurrences_filled (hapart : AreApart patterns) (hp : p ∈ patterns)
    (hturn : p ∉ done.map Prod.fst) (hdone : ∀ r ∈ done, ¬ MayOverlap p r.2)
    (hcut : IsCut patterns ps) : occurrences p (filled done ps) = ps.count (.slot p) := by
  induction hcut with
  | nil => rfl
  | @char c ps hchar _ ih =>
    -- The pattern did not begin here before, and does not come to by what has been filled in.
    have hbegins : ¬ p <+: [c] ++ filled done ps := fun hbegins =>
      hchar p hp (prefix_of_prefix_filled (fun r hr hmay => hdone r hr (.inr hmay))
        (List.cons_ne_nil c []) hbegins)
    rw [filled_cons, Part.fill, occurrences_append, beginnings, if_neg hbegins, beginnings, ih,
      List.count_cons_of_ne (by simp)]
    omega
  | @slot q ps hq _ ih =>
    rw [filled_cons, occurrences_append, ih]
    by_cases heq : q = p
    · rw [heq, fill_slot_of_not_mem hturn, beginnings_self (hapart.ne_nil p hp),
        beginnings_of_not_mayBegin (hapart.self p hp), List.count_cons_self]
      omega
    · -- It begins neither in a value nor in another pattern.
      rw [List.count_cons_of_ne (by simpa using heq)]
      suffices hnone : beginnings p ((Part.slot q).fill done) (filled done ps) = 0 by omega
      by_cases hmem : q ∈ done.map Prod.fst
      · obtain ⟨r, hr, hfill⟩ := fill_slot_of_mem hmem
        rw [hfill]
        exact beginnings_of_not_mayBegin (fun hmay => hdone r hr (.inl hmay)) _
      · rw [fill_slot_of_not_mem hmem]
        exact beginnings_of_not_mayBegin (hapart.other p hp q hq (Ne.symm heq)) _

/-- A pattern occurs in a text as often as it is cut out. -/
theorem occurrences_eq_count (hapart : AreApart patterns) (hp : p ∈ patterns) (cs : List Char) :
    occurrences p cs = (parts patterns cs).count (.slot p) := by
  have hcount : occurrences p (filled [] (parts patterns cs)) = _ :=
    occurrences_filled hapart hp (by simp) (by simp) (isCut_partsFrom hapart.ne_nil 0 cs)
  rwa [filled_nil_parts hapart.ne_nil] at hcount

/-! ### Pattern after pattern -/

theorem fill_append_self (hturn : p ∉ done.map Prod.fst) :
    (Part.slot p).fill (done ++ [(p, v)]) = v := by
  rw [Part.fill, List.find?_append, find?_eq_none_of_not_mem hturn, Option.none_or,
    List.find?_cons_of_pos (by simp)]

theorem fill_append_of_ne {part : Part} (h : part ≠ .slot p) :
    part.fill (done ++ [(p, v)]) = part.fill done := by
  cases part with
  | char c => rfl
  | slot q =>
    have hne : p ≠ q := by simpa [eq_comm] using h
    rw [Part.fill, Part.fill, List.find?_append, List.find?_cons_of_neg (by simpa using hne),
      List.find?_nil, Option.or_none]

/-- To replace a pattern that occurs in its slots only fills these slots. -/
theorem replaceAll_filled (hp : p ≠ []) (hturn : p ∉ done.map Prod.fst)
    (h : occurrences p (filled done ps) = ps.count (.slot p)) :
    replaceAll p v (filled done ps) = filled (done ++ [(p, v)]) ps := by
  induction ps with
  | nil => rfl
  | cons part ps ih =>
    -- There are enough occurrences in the later parts already, so none begins anywhere else.
    have hle := count_le_occurrences hp hturn ps
    rw [filled_cons, occurrences_append, List.count_cons] at h
    rw [filled_cons, filled_cons]
    by_cases hpart : part = .slot p
    · rw [hpart, fill_slot_of_not_mem hturn, beginnings_self hp, beq_self_eq_true, if_pos rfl] at h
      rw [hpart, fill_slot_of_not_mem hturn, replaceAll_append_self hp, fill_append_self hturn,
        ih (by omega)]
    · rw [if_neg (by simpa using hpart)] at h
      rw [replaceAll_append (by omega), fill_append_of_ne hpart, ih (by omega)]

/-- No pattern, when its turn comes, occurs more or less often than in the text at first. -/
def Undisturbed (cs : List Char) : List (List Char × List Char) → (now : List Char) → Prop
  | [], _ => True
  | (p, v) :: rules, now =>
    occurrences p now = occurrences p cs ∧ Undisturbed cs rules (replaceAll p v now)

instance decidableUndisturbed (cs : List Char) :
    (rules : List (List Char × List Char)) → (now : List Char) →
      Decidable (Undisturbed cs rules now)
  | [], _ => .isTrue trivial
  | (p, v) :: rules, now =>
    have := decidableUndisturbed cs rules (replaceAll p v now)
    inferInstanceAs (Decidable (_ ∧ _))

theorem undisturbed_cons (hapart : AreApart patterns) (hp : p ∈ patterns)
    (hturn : p ∉ done.map Prod.fst) :
    Undisturbed cs ((p, v) :: rules) (filled done (parts patterns cs)) ↔
      occurrences p (filled done (parts patterns cs)) = (parts patterns cs).count (.slot p) ∧
        Undisturbed cs rules (filled (done ++ [(p, v)]) (parts patterns cs)) := by
  rw [Undisturbed, occurrences_eq_count hapart hp cs]
  exact and_congr_right fun hoccurs => by
    rw [replaceAll_filled (hapart.ne_nil p hp) hturn hoccurs]

theorem turn_of_nodup (hnodup : ((done ++ (p, v) :: rules).map Prod.fst).Nodup) :
    p ∉ done.map Prod.fst := fun hmem => by
  rw [List.map_append, List.map_cons] at hnodup
  exact (List.nodup_append.1 hnodup).2.2 p hmem p (List.mem_cons_self ..) rfl

/-- From any turn on, the patterns that are left are filled in. -/
theorem replaceInTurn_filled (hapart : AreApart patterns)
    (hpatterns : (done ++ rules).map Prod.fst = patterns) (hnodup : patterns.Nodup)
    (h : Undisturbed cs rules (filled done (parts patterns cs))) :
    replaceInTurn rules (filled done (parts patterns cs)) =
      filled (done ++ rules) (parts patterns cs) := by
  -- `done` are the patterns whose turn has come: each step moves the next one there.
  induction rules generalizing done with
  | nil => rw [List.append_nil]; rfl
  | cons r rules ih =>
    obtain ⟨p, v⟩ := r
    have hp : p ∈ patterns := by simp [← hpatterns]
    have hturn : p ∉ done.map Prod.fst := turn_of_nodup (hpatterns ▸ hnodup)
    obtain ⟨hoccurs, hrest⟩ := (undisturbed_cons hapart hp hturn).1 h
    rw [replaceInTurn, List.foldl_cons, replaceAll_filled (hapart.ne_nil p hp) hturn hoccurs]
    refine (ih (by simpa using hpatterns) hrest).trans ?_
    rw [List.append_assoc, List.singleton_append]

/-- Patterns that are not disturbed are replaced one after the other as if at once. -/
theorem replaceInTurn_eq (hapart : AreApart (rules.map Prod.fst))
    (hnodup : (rules.map Prod.fst).Nodup) (h : Undisturbed cs rules cs) :
    replaceInTurn rules cs = replaceEach rules cs := by
  have hcs := filled_nil_parts hapart.ne_nil cs
  have hturn : replaceInTurn rules (filled [] (parts _ cs)) = replaceEach rules cs :=
    replaceInTurn_filled hapart rfl hnodup (by rwa [hcs])
  rwa [hcs] at hturn

example :
    replaceEach [(['a'], ['b']), (['b'], ['c'])] ['a', 'b'] = ['b', 'c'] ∧
      replaceInTurn [(['a'], ['b']), (['b'], ['c'])] ['a', 'b'] = ['c', 'c'] := by
  decide

/-! ### Values that disturb nothing -/

/-- No value has anything in common with a pattern whose turn is later. -/
def AreInert (rules : List (List Char × List Char)) : Prop :=
  rules.Pairwise fun earlier later => ¬ MayOverlap later.1 earlier.2

theorem undisturbed_filled (hapart : AreApart patterns)
    (hpatterns : (done ++ rules).map Prod.fst = patterns) (hnodup : patterns.Nodup)
    (hinert : AreInert (done ++ rules)) :
    Undisturbed cs rules (filled done (parts patterns cs)) := by
  induction rules generalizing done with
  | nil => trivial
  | cons r rules ih =>
    obtain ⟨p, v⟩ := r
    have hp : p ∈ patterns := by simp [← hpatterns]
    have hturn : p ∉ done.map Prod.fst := turn_of_nodup (hpatterns ▸ hnodup)
    refine (undisturbed_cons hapart hp hturn).2
      ⟨?_, ih (by simpa using hpatterns) (by simpa using hinert)⟩
    refine occurrences_filled hapart hp hturn (fun r hr => ?_) (isCut_partsFrom hapart.ne_nil 0 cs)
    exact (List.pairwise_append.1 hinert).2.2 r hr (p, v) (List.mem_cons_self ..)

/-- Whatever the text is, values that have nothing in common with the later patterns disturb
    none of them. -/
theorem undisturbed_of_areInert (hapart : AreApart (rules.map Prod.fst))
    (hnodup : (rules.map Prod.fst).Nodup) (hinert : AreInert rules) (cs : List Char) :
    Undisturbed cs rules cs := by
  have h : Undisturbed cs rules (filled [] (parts _ cs)) :=
    undisturbed_filled hapart rfl hnodup hinert
  rwa [filled_nil_parts hapart.ne_nil] at h

/-! ### The order of the patterns -/

theorem AreApart.perm {others : List (List Char)} (h : AreApart patterns)
    (hperm : others.Perm patterns) : AreApart others where
  ne_nil p hp := h.ne_nil p (hperm.subset hp)
  self p hp := h.self p (hperm.subset hp)
  other p hp q hq := h.other p (hperm.subset hp) q (hperm.subset hq)

/-- At most one pattern begins in a place. -/
theorem find?_prefix_perm {others : List (List Char)} (hapart : AreApart patterns)
    (hperm : patterns.Perm others) (c : Char) (cs : List Char) :
    patterns.find? (·.isPrefixOf (c :: cs)) = others.find? (·.isPrefixOf (c :: cs)) := by
  refine List.find?_eq_find?_of_perm hperm ?_
  rintro p ⟨hp, hbegins⟩ q ⟨hq, hbegins'⟩
  by_contra hne
  refine hapart.other p hp q hq hne ⟨q, by simp, hapart.ne_nil q hq, ?_⟩
  exact List.prefix_or_prefix_of_prefix (List.isPrefixOf_iff_prefix.1 hbegins')
    (List.isPrefixOf_iff_prefix.1 hbegins)

theorem partsFrom_perm {others : List (List Char)} (hapart : AreApart patterns)
    (hperm : patterns.Perm others) (skip : Nat) (cs : List Char) :
    partsFrom patterns skip cs = partsFrom others skip cs := by
  induction skip, cs using partsFrom.induct patterns with
  | case1 skip => rw [partsFrom, partsFrom]
  | case2 skip c cs ih => rw [partsFrom, ih, partsFrom]
  | case3 c cs p hp ih =>
    rw [partsFrom, partsFrom, ← find?_prefix_perm hapart hperm, hp]
    exact congrArg _ ih
  | case4 c cs hnone ih =>
    rw [partsFrom, partsFrom, ← find?_prefix_perm hapart hperm, hnone]
    exact congrArg _ ih

/-- Patterns that are replaced at once may come in any order. -/
theorem replaceEach_perm {others : List (List Char × List Char)}
    (hapart : AreApart (rules.map Prod.fst)) (hnodup : (rules.map Prod.fst).Nodup)
    (hperm : rules.Perm others) (cs : List Char) :
    replaceEach rules cs = replaceEach others cs := by
  have hfill (part : Part) : part.fill rules = part.fill others := by
    cases part with
    | char c => rfl
    | slot p =>
      rw [Part.fill, Part.fill, List.find?_eq_find?_of_perm hperm fun r hr r' hr' => ?_]
      have hkey : r.1 = r'.1 := (of_decide_eq_true hr.2).trans (of_decide_eq_true hr'.2).symm
      exact List.inj_on_of_nodup_map hnodup hr.1 hr'.1 hkey
  rw [replaceEach, replaceEach, parts, parts, partsFrom_perm hapart (hperm.map _)]
  exact List.flatMap_congr fun part _ => hfill part

end InstallerKit.Text
