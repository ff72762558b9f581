import InstallerKit.Proofs.Preprocessor.Reference

/-!
# Texts that are cut into pieces

A text is protected at one time or piece by piece. Which it is makes a difference to the
dollars that open a reference in the text, but not in their piece, as the reference goes on
in a later one: piece by piece these are doubled, too. There are no other differences, as
what opens a reference in a piece opens it in the text. So the pieces, protected one by one
and put together again, are the protected text if, and only if, no piece ends within a
reference; otherwise they have some dollars more.

What a piece becomes in the text depends on what follows it (`escapeBefore`), and each
piece can be compared by itself.

* `escapeBefore_eq_iff`: when it makes no difference to a piece what follows it;
* `cutsReference_cons`: the pieces that end within a reference, one by one;
* `join_map_escapeText`: a text protected piece by piece.
-/

namespace InstallerKit.Preprocessor

variable {c : Char} {cs ds : List Char}

/-! ### One piece and what follows it -/

/-- What protecting a text makes of the beginning `cs` of it when `ds` is the rest. -/
def escapeBefore (ds : List Char) : List Char → List Char
  | [] => []
  | c :: cs =>
    if c = '$' ∧ opensReference (cs ++ ds) = false then '$' :: '$' :: escapeBefore ds cs
    else c :: escapeBefore ds cs

theorem escape_append (cs ds : List Char) :
    escape (cs ++ ds) = escapeBefore ds cs ++ escape ds := by
  induction cs with
  | nil => rfl
  | cons c cs ih =>
    rw [List.cons_append, escape, escapeBefore, ih]
    split <;> rfl

/-- What opens a reference still does when more follows. -/
theorem opensReference_append (h : opensReference cs = true) (ds : List Char) :
    opensReference (cs ++ ds) = true := by
  obtain ⟨name, rest, rfl⟩ := opensReference_iff.1 h
  exact opensReference_iff.2 ⟨name, rest ++ ds, by simp⟩

/-- A dollar that opens no reference in the text opens none in its piece. -/
theorem doubled_of_append (h : c = '$' ∧ opensReference (cs ++ ds) = false) :
    c = '$' ∧ opensReference cs = false := by
  refine ⟨h.1, Bool.not_eq_true _ ▸ fun hpiece => ?_⟩
  rw [opensReference_append hpiece] at h
  cases h.2

theorem escapeBefore_sublist (ds cs : List Char) : (escapeBefore ds cs).Sublist (escape cs) := by
  induction cs with
  | nil => exact .slnil
  | cons c cs ih =>
    rw [escapeBefore, escape]
    by_cases hpiece : c = '$' ∧ opensReference cs = false
    · rw [if_pos hpiece]
      split
      · exact (ih.cons_cons '$').cons_cons '$'
      · rw [hpiece.1]
        exact (ih.cons_cons '$').cons '$'
    · rw [if_neg hpiece, if_neg (mt doubled_of_append hpiece)]
      exact ih.cons_cons c

theorem filter_escape (cs : List Char) : (escape cs).filter (· ≠ '$') = cs.filter (· ≠ '$') := by
  rw [escape_eq_resize, filter_resize]

/-- A reference starts in the first of two texts and ends in the second one. -/
def Straddles (cs ds : List Char) : Prop :=
  ∃ before name after, cs ++ ds = before ++ '$' :: '(' :: (name ++ ')' :: after) ∧ ')' ∉ name ∧
    before.length < cs.length ∧ cs.length < before.length + name.length + 3

/-- What opens a reference in a text opens it in the beginning of it if the first closing
    parenthesis is still there. -/
theorem opensReference_iff_length {name after : List Char}
    (heq : cs ++ ds = '(' :: (name ++ ')' :: after)) (hname : ')' ∉ name) :
    opensReference cs = true ↔ name.length + 2 ≤ cs.length := by
  have hcs : cs <+: '(' :: (name ++ ')' :: after) := ⟨ds, heq⟩
  constructor
  · -- A beginning that ends before the parenthesis has none.
    intro hopens
    by_contra hlt
    have hshort : cs <+: '(' :: name := by
      refine List.prefix_of_prefix_length_le hcs ⟨')' :: after, by simp⟩ ?_
      simp only [List.length_cons]
      omega
    have hclose := (opensReference_iff_head?.1 hopens).2
    exact absurd (hshort.subset hclose) (by simp [hname])
  · intro hle
    have hlong : '(' :: (name ++ [')']) <+: cs := by
      refine List.prefix_of_prefix_length_le ⟨after, by simp⟩ hcs ?_
      simp only [List.length_cons, List.length_append, List.length_nil]
      omega
    obtain ⟨rest, rfl⟩ := hlong
    exact opensReference_iff.2 ⟨name, rest, by simp⟩

theorem straddles_cons : Straddles (c :: cs) ds ↔
    (c = '$' ∧ opensReference (cs ++ ds) = true ∧ opensReference cs = false) ∨
      Straddles cs ds := by
  constructor
  · rintro ⟨before, name, after, heq, hname, hstart, hend⟩
    cases before with
    | nil =>
      obtain ⟨rfl, hrest⟩ : c = '$' ∧ cs ++ ds = '(' :: (name ++ ')' :: after) :=
        List.cons.inj heq
      refine .inl ⟨rfl, ?_, ?_⟩
      · rw [hrest]
        exact opensReference_iff.2 ⟨name, after, rfl⟩
      · rw [← Bool.not_eq_true, opensReference_iff_length hrest hname]
        simp only [List.length_cons, List.length_nil] at hend
        omega
    | cons b before =>
      obtain ⟨-, heq⟩ := List.cons.inj heq
      simp only [List.length_cons] at hstart hend
      exact .inr ⟨before, name, after, heq, hname, by omega, by omega⟩
  · rintro (⟨rfl, htext, hpiece⟩ | ⟨before, name, after, heq, hname, hstart, hend⟩)
    · obtain ⟨name, after, heq, hname⟩ := opensReference_iff_first.1 htext
      rw [← Bool.not_eq_true, opensReference_iff_length heq hname] at hpiece
      refine ⟨[], name, after, by simp [heq], hname, by simp, ?_⟩
      simp only [List.length_cons, List.length_nil]
      omega
    · refine ⟨c :: before, name, after, by simp [heq], hname, ?_, ?_⟩ <;>
        simp only [List.length_cons] <;> omega

/-- What follows a piece makes no difference to it unless the piece ends within a reference. -/
theorem escapeBefore_eq_iff : escapeBefore ds cs = escape cs ↔ ¬ Straddles cs ds := by
  induction cs with
  | nil =>
    refine iff_of_true rfl ?_
    rintro ⟨before, name, after, -, -, hstart, -⟩
    exact Nat.not_lt_zero _ hstart
  | cons c cs ih =>
    rw [straddles_cons, not_or, ← ih, escapeBefore, escape]
    by_cases hpiece : c = '$' ∧ opensReference cs = false
    · obtain ⟨rfl, hpiece⟩ := hpiece
      by_cases htext : opensReference (cs ++ ds) = true
      · -- The dollar is doubled in the piece only, which makes that longer for good.
        have hle := (escapeBefore_sublist ds cs).length_le
        have hne : '$' :: escapeBefore ds cs ≠ '$' :: '$' :: escape cs := fun heq => by
          have hlength := congrArg List.length heq
          simp only [List.length_cons] at hlength
          omega
        simpa [htext, hpiece] using hne
      · simp [htext, hpiece]
    · have hopens : ¬ (c = '$' ∧ opensReference (cs ++ ds) = true ∧ opensReference cs = false) :=
        fun h => hpiece ⟨h.1, h.2.2⟩
      rw [if_neg hpiece, if_neg (mt doubled_of_append hpiece), List.cons.injEq]
      simp [hopens]

/-! ### Several pieces -/

/-- Some piece of a text ends within a reference, which is after the dollar of it and before
    the end of the first closing parenthesis. -/
def CutsReference (ps : List (List Char)) : Prop :=
  ∃ left right, ps = left ++ right ∧
    ∃ before name after, ps.flatten = before ++ '$' :: '(' :: (name ++ ')' :: after) ∧
      ')' ∉ name ∧ before.length < left.flatten.length ∧
      left.flatten.length < before.length + name.length + 3

theorem cutsReference_cons {p : List Char} {ps : List (List Char)} :
    CutsReference (p :: ps) ↔ Straddles p ps.flatten ∨ CutsReference ps := by
  constructor
  · rintro ⟨left, right, heq, before, name, after, htext, hname, hstart, hend⟩
    cases left with
    | nil => exact absurd hstart (Nat.not_lt_zero _)
    | cons q left =>
      obtain ⟨rfl, rfl⟩ : p = q ∧ ps = left ++ right := List.cons.inj heq
      rw [List.flatten_cons] at htext hstart hend
      rw [List.length_append] at hstart hend
      by_cases hp : before.length < p.length
      · exact .inl ⟨before, name, after, htext, hname, hp, by omega⟩
      · -- The reference starts behind the first piece.
        obtain ⟨rest, rfl⟩ : p <+: before :=
          List.prefix_of_prefix_length_le ⟨_, rfl⟩ ⟨_, htext.symm⟩ (by omega)
        rw [List.append_assoc] at htext
        rw [List.length_append] at hstart hend
        exact .inr ⟨left, right, rfl, rest, name, after, List.append_cancel_left htext, hname,
          by omega, by omega⟩
  · rintro (⟨before, name, after, htext, hname, hstart, hend⟩ |
      ⟨left, right, rfl, before, name, after, htext, hname, hstart, hend⟩)
    · exact ⟨[p], ps, rfl, before, name, after, htext, hname, by simpa using hstart,
        by simpa using hend⟩
    · refine ⟨p :: left, right, rfl, p ++ before, name, after, ?_, hname, ?_, ?_⟩
      · rw [List.flatten_cons, htext, List.append_assoc]
      · rw [List.flatten_cons, List.length_append, List.length_append]
        omega
      · rw [List.flatten_cons, List.length_append, List.length_append]
        omega

/-- Piece by piece, only more dollars are doubled. -/
theorem escape_flatten_sublist (ps : List (List Char)) :
    (escape ps.flatten).Sublist (ps.flatMap escape) := by
  induction ps with
  | nil => exact .slnil
  | cons p ps ih =>
    rw [List.flatten_cons, escape_append, List.flatMap_cons]
    exact (escapeBefore_sublist _ p).append ih

theorem filter_flatMap_escape (ps : List (List Char)) :
    (ps.flatMap escape).filter (· ≠ '$') = (escape ps.flatten).filter (· ≠ '$') := by
  rw [filter_escape]
  induction ps with
  | nil => rfl
  | cons p ps ih =>
    rw [List.flatMap_cons, List.filter_append, ih, filter_escape, List.flatten_cons,
      List.filter_append]

/-- Two texts without some of their characters are, one after the other, what they were only
    if neither lacks any. -/
theorem append_eq_append_iff_of_sublist {cs cs' ds ds' : List Char} (h : cs'.Sublist cs)
    (h' : ds'.Sublist ds) : cs ++ ds = cs' ++ ds' ↔ cs' = cs ∧ ds = ds' := by
  constructor
  · intro heq
    have hlength := congrArg List.length heq
    rw [List.length_append, List.length_append] at hlength
    have hle := h.length_le
    have hle' := h'.length_le
    exact ⟨h.eq_of_length_le (by omega), (h'.eq_of_length_le (by omega)).symm⟩
  · rintro ⟨rfl, rfl⟩
    rfl

theorem flatMap_escape_eq_iff (ps : List (List Char)) :
    ps.flatMap escape = escape ps.flatten ↔ ¬ CutsReference ps := by
  induction ps with
  | nil =>
    refine iff_of_true rfl ?_
    rintro ⟨left, right, heq, before, name, after, htext, -⟩
    simp at htext
  | cons p ps ih =>
    rw [cutsReference_cons, not_or, ← escapeBefore_eq_iff, ← ih, List.flatMap_cons,
      List.flatten_cons, escape_append]
    exact append_eq_append_iff_of_sublist (escapeBefore_sublist _ p) (escape_flatten_sublist ps)

theorem toList_join_map_escapeText (ps : List String) :
    (String.join (ps.map escapeText)).toList = (ps.map String.toList).flatMap escape := by
  rw [String.toList_join, List.flatMap_map, List.flatMap_map]
  exact congrArg (List.flatMap · ps) (funext toList_escapeText)

/-- A text that is protected piece by piece comes out the same if, and only if, no piece of it
    ends within a reference. Otherwise it gets longer. What is more then are dollars. -/
theorem join_map_escapeText (ps : List String) :
    (String.join (ps.map escapeText) = escapeText (String.join ps) ↔
      ¬ CutsReference (ps.map String.toList)) ∧
    (CutsReference (ps.map String.toList) →
      (escapeText (String.join ps)).length < (String.join (ps.map escapeText)).length) ∧
    (escapeText (String.join ps)).toList.Sublist (String.join (ps.map escapeText)).toList ∧
    (String.join (ps.map escapeText)).toList.filter (· ≠ '$') =
      (escapeText (String.join ps)).toList.filter (· ≠ '$') := by
  have htext : (escapeText (String.join ps)).toList = escape (ps.map String.toList).flatten := by
    rw [toList_escapeText, String.toList_join, List.flatMap_def]
  rw [← String.toList_inj, ← String.length_toList, ← String.length_toList, htext,
    toList_join_map_escapeText]
  have hsublist := escape_flatten_sublist (ps.map String.toList)
  refine ⟨flatMap_escape_eq_iff _, fun hcuts => ?_, hsublist, filter_flatMap_escape _⟩
  by_contra hlt
  have heq := hsublist.eq_of_length_le (Nat.not_lt.1 hlt)
  exact (flatMap_escape_eq_iff _).1 heq.symm hcuts

/-- The first dollar opens a reference that ends in the third piece, the second one another
    that ends there, too, and the last one none in any piece or the text. -/
theorem join_map_escapeText_of_nested_references :
    CutsReference (["$(a$", "", "(b)", "$"].map String.toList) ∧
    escapeText (String.join ["$(a$", "", "(b)", "$"]) = "$(a$(b)$$" ∧
    String.join (["$(a$", "", "(b)", "$"].map escapeText) = "$$(a$$(b)$$" ∧
    (escapeText (String.join ["$(a$", "", "(b)", "$"])).length <
      (String.join (["$(a$", "", "(b)", "$"].map escapeText)).length := by
  have hcuts : CutsReference (["$(a$", "", "(b)", "$"].map String.toList) :=
    ⟨["$(a$".toList], ["".toList, "(b)".toList, "$".toList], by decide, [], "a$(b".toList,
      "$".toList, by decide, by decide, by decide, by decide⟩
  exact ⟨hcuts, by decide +kernel, by decide +kernel,
    (join_map_escapeText ["$(a$", "", "(b)", "$"]).2.1 hcuts⟩

end InstallerKit.Preprocessor
