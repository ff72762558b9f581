import InstallerKit.Text.Occurrence
import Mathlib.Data.List.Infix

/-!
# Replacing a text in another

A text is read from the left, and an occurrence that is found is replaced and skipped. So a piece
of a text in which no occurrence begins, whatever follows it, is kept, and a piece that is an
occurrence is replaced. Whether an occurrence begins in a piece is decided by what they have in
common, for as long as both go on.

* `beginnings`, `occurrences`: how often a text begins in a piece, and in all;
* `replaceAll_append`, `replaceAll_append_self`: the two kinds of pieces;
* `replaceInTurn`: several patterns, one after the other;
* `MayBegin`: a text may begin in a piece, if the right text follows it;
* `MayOverlap`: two texts may have something in common where they occur;
* `cutAt?_append`, `exists_first`: the first occurrence, and what stands before and after it.
-/

namespace InstallerKit.Text

variable {old new block rest : List Char}

/-! ### Pieces of a text -/

/-- The number of places in `block` where `needle` begins, if `block` is followed by `rest`. -/
def beginnings (needle : List Char) : (block rest : List Char) → Nat
  | [], _ => 0
  | c :: cs, rest =>
    (if needle <+: c :: cs ++ rest then 1 else 0) + beginnings needle cs rest

/-- The number of places where a text that is not empty occurs in another one. -/
def occurrences (needle cs : List Char) : Nat :=
  beginnings needle cs []

theorem beginnings_append (needle block cs rest : List Char) :
    beginnings needle (block ++ cs) rest =
      beginnings needle block (cs ++ rest) + beginnings needle cs rest := by
  induction block with
  | nil => rw [List.nil_append, beginnings, Nat.zero_add]
  | cons c block ih =>
    rw [List.cons_append, beginnings, beginnings, ih, List.cons_append, List.append_assoc,
      Nat.add_assoc, List.cons_append]

theorem occurrences_append (needle block rest : List Char) :
    occurrences needle (block ++ rest) =
      beginnings needle block rest + occurrences needle rest := by
  rw [occurrences, beginnings_append, List.append_nil, occurrences]

/-- A text begins where it is. -/
theorem beginnings_self (h : old ≠ []) (rest : List Char) :
    beginnings old old rest = 1 + beginnings old old.tail rest := by
  obtain ⟨c, cs, rfl⟩ := List.exists_cons_of_ne_nil h
  rw [beginnings, if_pos (List.prefix_append ..), List.tail_cons]

theorem occurrences_eq_zero_iff {needle cs : List Char} (h : needle ≠ []) :
    occurrences needle cs = 0 ↔ ¬ needle <:+: cs := by
  induction cs with
  | nil => simp [occurrences, beginnings, h]
  | cons c cs ih =>
    rw [occurrences, beginnings, List.append_nil, List.infix_cons_iff, not_or, ← ih, occurrences,
      Nat.add_eq_zero_iff]
    simp

/-! ### What replacing does to a piece -/

theorem replaceFrom_append (old new cs rest : List Char) :
    replaceFrom old new cs.length (cs ++ rest) = replaceAll old new rest := by
  induction cs with
  | nil => rfl
  | cons c cs ih => exact ih

/-- A piece in which no occurrence begins is kept. -/
theorem replaceAll_append (h : beginnings old block rest = 0) (new : List Char) :
    replaceAll old new (block ++ rest) = block ++ replaceAll old new rest := by
  induction block with
  | nil => rfl
  | cons c block ih =>
    rw [beginnings, Nat.add_eq_zero_iff] at h
    have hno : old.isPrefixOf (c :: (block ++ rest)) = false := by
      rw [← Bool.not_eq_true, List.isPrefixOf_iff_prefix]
      simpa using h.1
    rw [List.cons_append, replaceAll, replaceFrom, hno]
    exact congrArg (c :: ·) (ih h.2)

/-- An occurrence is replaced. -/
theorem replaceAll_append_self (h : old ≠ []) (new rest : List Char) :
    replaceAll old new (old ++ rest) = new ++ replaceAll old new rest := by
  obtain ⟨c, cs, rfl⟩ := List.exists_cons_of_ne_nil h
  have hyes : (c :: cs).isPrefixOf (c :: (cs ++ rest)) = true :=
    List.isPrefixOf_iff_prefix.2 (List.prefix_append (c :: cs) rest)
  rw [List.cons_append, replaceAll, replaceFrom, if_pos hyes, List.length_cons,
    Nat.add_sub_cancel, replaceFrom_append]

/-- A text without occurrences is kept. -/
theorem replaceAll_of_not_infix {cs : List Char} (hold : old ≠ []) (h : ¬ old <:+: cs)
    (new : List Char) : replaceAll old new cs = cs := by
  have hkeep := replaceAll_append ((occurrences_eq_zero_iff hold).2 h) new
  simpa [replaceAll, replaceFrom] using hkeep

/-- Replacing pattern after pattern. -/
def replaceInTurn (rules : List (List Char × List Char)) (cs : List Char) : List Char :=
  rules.foldl (fun text r => replaceAll r.1 r.2 text) cs

/-- A text in which no pattern occurs is kept. -/
theorem replaceInTurn_of_not_infix {rules : List (List Char × List Char)} {cs : List Char}
    (h : ∀ r ∈ rules, r.1 ≠ [] ∧ ¬ r.1 <:+: cs) : replaceInTurn rules cs = cs := by
  induction rules with
  | nil => rfl
  | cons r rules ih =>
    obtain ⟨⟨hne, hr⟩, hrules⟩ := List.forall_mem_cons.1 h
    rw [replaceInTurn, List.foldl_cons, replaceAll_of_not_infix hne hr]
    exact ih hrules

/-! ### Where an occurrence may begin -/

/-- An occurrence may begin in a piece: from some place in it, the two are the same for as long
    as both go on. -/
def MayBegin (needle block : List Char) : Prop :=
  ∃ s ∈ block.tails, s ≠ [] ∧ (s <+: needle ∨ needle <+: s)

/-- Two texts may have something in common where they occur: one of them may begin in the other
    one. An empty text has its place between two characters. -/
def MayOverlap (a b : List Char) : Prop :=
  MayBegin a b ∨ MayBegin b a.tail

instance (needle block : List Char) : Decidable (MayBegin needle block) :=
  inferInstanceAs (Decidable (∃ s ∈ block.tails, _))

instance (a b : List Char) : Decidable (MayOverlap a b) :=
  inferInstanceAs (Decidable (_ ∨ _))

theorem MayBegin.cons {needle : List Char} (h : MayBegin needle block) (c : Char) :
    MayBegin needle (c :: block) := by
  obtain ⟨s, hs, hne, hcommon⟩ := h
  exact ⟨s, by rw [List.tails_cons]; exact List.mem_cons_of_mem _ hs, hne, hcommon⟩

theorem beginnings_of_not_mayBegin {needle : List Char} (h : ¬ MayBegin needle block)
    (rest : List Char) : beginnings needle block rest = 0 := by
  induction block with
  | nil => rfl
  | cons c block ih =>
    have hhere : ¬ needle <+: c :: block ++ rest := fun hneedle =>
      h ⟨c :: block, by simp, by simp,
        List.prefix_or_prefix_of_prefix (List.prefix_append ..) hneedle⟩
    rw [beginnings, ih fun hlater => h (hlater.cons c), if_neg hhere]

/-- What begins with a piece ends in it, unless what comes next begins within the rest of it. -/
theorem prefix_or_mayBegin {needle before : List Char} (hbefore : before ≠ [])
    (h : needle <+: before ++ (block ++ rest)) :
    needle <+: before ∨ MayBegin block needle.tail := by
  rcases List.prefix_or_prefix_of_prefix h (List.prefix_append ..) with hend | ⟨t, rfl⟩
  · exact .inl hend
  · obtain ⟨b, bs, rfl⟩ := List.exists_cons_of_ne_nil hbefore
    have ht : t <+: block ++ rest := (List.prefix_append_right_inj (b :: bs)).1 h
    cases t with
    | nil => exact .inl (by simp)
    | cons c t =>
      -- The rest of the text and what comes next start in the same place.
      refine .inr ⟨c :: t, ?_, List.cons_ne_nil c t, ?_⟩
      · exact (List.mem_tails _ _).2 (List.suffix_append bs (c :: t))
      · exact List.prefix_or_prefix_of_prefix ht (List.prefix_append ..)

/-- If a piece has no occurrence in it, none begins there before something that cannot begin
    within the rest of one. -/
theorem beginnings_of_not_infix {needle next : List Char} (h : ¬ needle <:+: block)
    (hnext : ¬ MayBegin next needle.tail) (rest : List Char) :
    beginnings needle block (next ++ rest) = 0 := by
  induction block with
  | nil => rfl
  | cons c block ih =>
    rw [List.infix_cons_iff, not_or] at h
    have hhere : ¬ needle <+: c :: block ++ (next ++ rest) := fun hneedle =>
      (prefix_or_mayBegin (List.cons_ne_nil c block) hneedle).elim h.1 hnext
    rw [beginnings, if_neg hhere, ih h.2]

/-! ### The first occurrence -/

/-- What stands before the first occurrence of a text that is not empty, and what stands after
    it. -/
def cutAt? (needle : List Char) : List Char → Option (List Char × List Char)
  | [] => none
  | c :: cs =>
    match needle.isPrefixOf? (c :: cs) with
    | some after => some ([], after)
    | none => (cutAt? needle cs).map fun (before, after) => (c :: before, after)

theorem length_le_of_cutAt? {needle cs before after : List Char}
    (h : cutAt? needle cs = some (before, after)) : after.length ≤ cs.length := by
  induction cs generalizing before with
  | nil => cases h
  | cons c cs ih =>
    rw [cutAt?] at h
    split at h
    · next rest hrest =>
      obtain ⟨-, rfl⟩ := Prod.mk.inj (Option.some.inj h)
      rw [← List.isPrefixOf?_eq_some_iff_append_eq.1 hrest, List.length_append]
      exact Nat.le_add_left ..
    · obtain ⟨⟨x, y⟩, hcut, heq⟩ := Option.map_eq_some_iff.1 h
      obtain ⟨-, rfl⟩ := Prod.mk.inj heq
      exact Nat.le_succ_of_le (ih hcut)

/-- An occurrence is the first one if none begins in what stands before it. -/
theorem cutAt?_append {needle before after : List Char} (hne : needle ≠ [])
    (h : beginnings needle before (needle ++ after) = 0) :
    cutAt? needle (before ++ (needle ++ after)) = some (before, after) := by
  induction before with
  | nil =>
    obtain ⟨c, cs, rfl⟩ := List.exists_cons_of_ne_nil hne
    have hprefix : (c :: cs).isPrefixOf? (c :: (cs ++ after)) = some after :=
      List.isPrefixOf?_eq_some_iff_append_eq.2 rfl
    rw [List.nil_append, List.cons_append, cutAt?, hprefix]
  | cons b before ih =>
    rw [beginnings, Nat.add_eq_zero_iff] at h
    have hprefix : needle.isPrefixOf? (b :: (before ++ (needle ++ after))) = none := by
      cases hp : needle.isPrefixOf? (b :: (before ++ (needle ++ after))) with
      | none => rfl
      | some rest =>
        have hbegins : needle <+: b :: before ++ (needle ++ after) :=
          ⟨rest, List.isPrefixOf?_eq_some_iff_append_eq.1 hp⟩
        rw [if_pos hbegins] at h
        cases h.1
    rw [List.cons_append, cutAt?, hprefix, ih h.2]
    rfl

/-- Where a text occurs, it occurs for a first time, and what stands before is without it. -/
theorem exists_first {needle cs : List Char} (hne : needle ≠ []) (h : needle <:+: cs) :
    ∃ before after, cs = before ++ (needle ++ after) ∧ ¬ needle <:+: before := by
  induction cs with
  | nil => exact absurd (List.infix_nil.1 h) hne
  | cons c cs ih =>
    by_cases hhere : needle <+: c :: cs
    · obtain ⟨after, hafter⟩ := hhere
      exact ⟨[], after, hafter.symm, fun hnil => hne (List.infix_nil.1 hnil)⟩
    · obtain ⟨before, after, rfl, hnone⟩ := ih ((List.infix_cons_iff.1 h).resolve_left hhere)
      refine ⟨c :: before, after, rfl, fun hbefore => ?_⟩
      rcases List.infix_cons_iff.1 hbefore with hstart | hlater
      · exact hhere (hstart.trans (List.prefix_append (c :: before) _))
      · exact hnone hlater

end InstallerKit.Text
