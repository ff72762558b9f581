import InstallerKit.Proofs.Markup.Reading

/-!
# Ends of lines

A line ends with a line feed, a carriage return, or both together. Before a document is
parsed, every end of a line becomes a line feed, so no parser ever sees a carriage return,
unless a reference stands for it. References are neither made nor lost by that, and a section
that has been split is still split at the same places: what is written for a text becomes what
is written for the text with its line ends unified.

* `unifyLines`: the text with a line feed for every end of a line;
* `not_mem_unifyLines`, `unifyLines_of_not_mem`: there is no carriage return in it, and nothing
  changes if there was none;
* `unifyLines_encodeText`, `unifyLines_section`: what becomes of texts and sections.
-/

namespace InstallerKit.Markup

/-- The text with a line feed for every end of a line. If it comes after a carriage return,
    for which a line feed stands already, a line feed at its start belongs to that. -/
def unifyLines : (afterReturn : Bool) → List Char → List Char
  | _, [] => []
  | afterReturn, c :: cs =>
    if c = '\r' then '\n' :: unifyLines true cs
    else if afterReturn = true ∧ c = '\n' then unifyLines false cs
    else c :: unifyLines false cs

/-- Whether what follows comes after a carriage return. -/
def endsInReturn : (afterReturn : Bool) → List Char → Bool
  | afterReturn, [] => afterReturn
  | _, c :: cs => endsInReturn (c == '\r') cs

variable {b : Bool} {c : Char} {cs ds needle : List Char}

theorem unifyLines_append (b : Bool) (cs ds : List Char) :
    unifyLines b (cs ++ ds) = unifyLines b cs ++ unifyLines (endsInReturn b cs) ds := by
  induction cs generalizing b with
  | nil => rfl
  | cons c cs ih =>
    rw [List.cons_append, unifyLines, unifyLines, endsInReturn]
    split
    · next hc => rw [ih, beq_iff_eq.2 hc]; rfl
    · next hc =>
      rw [ih, beq_eq_false_iff_ne.2 hc]
      split <;> rfl

theorem endsInReturn_append (b : Bool) (cs ds : List Char) :
    endsInReturn b (cs ++ ds) = endsInReturn (endsInReturn b cs) ds := by
  induction cs generalizing b with
  | nil => rfl
  | cons c cs ih => exact ih _

/-- No carriage return is left. -/
theorem not_mem_unifyLines (b : Bool) (cs : List Char) : '\r' ∉ unifyLines b cs := by
  induction cs generalizing b with
  | nil => exact List.not_mem_nil
  | cons c cs ih =>
    rw [unifyLines]
    split
    · simp [ih true]
    · next hc =>
      split
      · exact ih false
      · simp [Ne.symm hc, ih false]

theorem unifyLines_of_not_mem (h : '\r' ∉ cs) : unifyLines false cs = cs := by
  induction cs with
  | nil => rfl
  | cons c cs ih =>
    simp only [List.mem_cons, not_or] at h
    rw [unifyLines, if_neg (Ne.symm h.1), if_neg (by simp), ih h.2]

theorem endsInReturn_of_not_mem (h : '\r' ∉ cs) : endsInReturn false cs = false := by
  induction cs with
  | nil => rfl
  | cons c cs ih =>
    simp only [List.mem_cons, not_or] at h
    rw [endsInReturn, beq_eq_false_iff_ne.2 (Ne.symm h.1), ih h.2]

/-! ### What is written for a text -/

/-- No line ends in the text. -/
def IsLine (cs : List Char) : Prop :=
  ∀ c ∈ cs, c ≠ '\r' ∧ c ≠ '\n'

instance (cs : List Char) : Decidable (IsLine cs) :=
  List.decidableBAll (fun c => c ≠ '\r' ∧ c ≠ '\n') cs

theorem unifyLines_line (b : Bool) (ds : List Char) (hne : ds ≠ []) (h : IsLine ds) :
    unifyLines b ds = ds ∧ endsInReturn b ds = false := by
  induction ds generalizing b with
  | nil => exact absurd rfl hne
  | cons c cs ih =>
    obtain ⟨hc, hcs⟩ := List.forall_mem_cons.1 h
    rw [unifyLines, if_neg hc.1, if_neg fun h => hc.2 h.2, endsInReturn,
      beq_eq_false_iff_ne.2 hc.1]
    cases cs with
    | nil => exact ⟨rfl, rfl⟩
    | cons d ds =>
      have ih := ih false (by simp) hcs
      exact ⟨by rw [ih.1], ih.2⟩

/-- A character stands for itself, or no line ends with it or in what is written for it. -/
theorem textChar_eq_or (c : Char) : textChar c = [c] ∨
    (c ≠ '\r' ∧ c ≠ '\n') ∧ textChar c ≠ [] ∧ IsLine (textChar c) := by
  unfold textChar
  split
  · next h => subst h; exact .inr (by decide)
  split
  · next h => subst h; exact .inr (by decide)
  split
  · next h => subst h; exact .inr (by decide)
  · exact .inl rfl

theorem endsInReturn_encodeText (b : Bool) (cs : List Char) :
    endsInReturn b (encodeText cs) = endsInReturn b cs := by
  induction cs generalizing b with
  | nil => rfl
  | cons c cs ih =>
    rw [encodeText, List.flatMap_cons, ← encodeText, endsInReturn_append, ih, endsInReturn]
    rcases textChar_eq_or c with hc | ⟨hc, hne, hline⟩
    · rw [hc]
      rfl
    · rw [(unifyLines_line b _ hne hline).2, beq_eq_false_iff_ne.2 hc.1]

/-- What is written for a text becomes what is written for the text with its line ends
    unified. -/
theorem unifyLines_encodeText (b : Bool) (cs : List Char) :
    unifyLines b (encodeText cs) = encodeText (unifyLines b cs) := by
  induction cs generalizing b with
  | nil => rfl
  | cons c cs ih =>
    have hcons (x : Char) (xs : List Char) : encodeText (x :: xs) = textChar x ++ encodeText xs :=
      List.flatMap_cons
    rw [hcons]
    -- Only a character that stands for itself can be part of the end of a line.
    rcases textChar_eq_or c with hc | ⟨hc, hne, hline⟩
    · rw [hc, List.singleton_append, unifyLines, unifyLines, ih, ih]
      split
      · rw [hcons]
        rfl
      split
      · rfl
      · rw [hcons, hc]
        rfl
    · rw [unifyLines_append, (unifyLines_line b _ hne hline).1, (unifyLines_line b _ hne hline).2,
        ih, unifyLines, if_neg hc.1, if_neg fun h => hc.2 h.2, hcons]

/-! ### What is written for a section -/

/-- A text in which no line ends is at the start of a text if it is there when the line ends of
    that have been unified. -/
theorem prefix_unifyLines_iff (h : IsLine needle) :
    needle <+: unifyLines false cs ↔ needle <+: cs := by
  induction needle generalizing cs with
  | nil => simp
  | cons x needle ih =>
    obtain ⟨hx, hneedle⟩ := List.forall_mem_cons.1 h
    cases cs with
    | nil => rfl
    | cons c cs =>
      rw [unifyLines]
      split
      · next hc =>
        rw [List.cons_prefix_cons, List.cons_prefix_cons]
        exact iff_of_false (fun h => hx.2 h.1) fun h => hx.1 (h.1.trans hc)
      · rw [if_neg (by simp), List.cons_prefix_cons, List.cons_prefix_cons, ih hneedle]

/-- A section is split at the same places. -/
theorem unifyLines_encodeCdata (b : Bool) (cs : List Char) :
    unifyLines b (encodeCdata cs) = encodeCdata (unifyLines b cs) := by
  match cs with
  | [] => rfl
  | c :: cs =>
    by_cases hend : "]]>".toList <+: c :: cs
    · obtain ⟨rest, hrest⟩ := hend
      obtain ⟨rfl, rfl⟩ : c = ']' ∧ cs = ']' :: '>' :: rest := by simpa using hrest.symm
      -- No line ends in what the section is split with.
      have hsplit (ds : List Char) : encodeCdata (']' :: ']' :: '>' :: ds) =
          "]]]]><![CDATA[>".toList ++ encodeCdata ds := rfl
      have hline := unifyLines_line b "]]]]><![CDATA[>".toList (by decide) (by decide)
      rw [hsplit, unifyLines_append, hline.1, hline.2, unifyLines_encodeCdata false rest, ← hsplit]
      simp [unifyLines]
    · rw [Reader.encodeCdata_cons hend, unifyLines, unifyLines]
      split
      · rw [unifyLines_encodeCdata true cs, Reader.encodeCdata_cons (by simp)]
      · next hreturn =>
        split
        · exact unifyLines_encodeCdata false cs
        · -- No end of a section comes into being where there was none.
          have hsame : ¬ "]]>".toList <+: c :: unifyLines false cs := fun h => by
            obtain ⟨hc, hrest⟩ := List.cons_prefix_cons.1 h
            have hline : IsLine "]>".toList := by decide
            exact hend (List.cons_prefix_cons.2 ⟨hc, (prefix_unifyLines_iff hline).1 hrest⟩)
          rw [unifyLines_encodeCdata false cs, Reader.encodeCdata_cons hsame]
termination_by cs.length

/-- A whole section becomes the section of the text with its line ends unified. -/
theorem unifyLines_section (b : Bool) (cs : List Char) :
    unifyLines b ("<![CDATA[".toList ++ encodeCdata cs ++ "]]>".toList) =
        "<![CDATA[".toList ++ encodeCdata (unifyLines false cs) ++ "]]>".toList ∧
      endsInReturn b ("<![CDATA[".toList ++ encodeCdata cs ++ "]]>".toList) = false := by
  have hopen := unifyLines_line b "<![CDATA[".toList (by decide) (by decide)
  have hclose (b' : Bool) := unifyLines_line b' "]]>".toList (by decide) (by decide)
  rw [unifyLines_append, unifyLines_append, hopen.1, hopen.2, unifyLines_encodeCdata, (hclose _).1,
    endsInReturn_append, (hclose _).2]
  exact ⟨rfl, rfl⟩

end InstallerKit.Markup
