import InstallerKit.Markup.Name
import InstallerKit.Proofs.Markup.Reader

/-!
# What names are made of

An accepted name has a *bare* form, without the line feed that it may end in. To a
reader the line feed is white space after the name. No character of the bare form
means anything to a reader besides belonging to a name, so a name is read to its end
and no further; nor does it mean anything to the preprocessor.

* `IsBare.of_isName`: the bare form of an accepted name;
* `eq_bare_of_isName`: an accepted name is its bare form, or has a line feed after it.
-/

namespace InstallerKit.Markup

/-- A name without a line feed at its end. -/
def bare (cs : List Char) : List Char :=
  if cs.getLast? = some '\n' then cs.dropLast else cs

/-- A name without a line feed at its end. -/
def bareName (s : String) : String :=
  .ofList (bare s.toList)

/-- What a reader takes for a name. -/
structure IsBare (cs : List Char) : Prop where
  ne_nil : cs ≠ []
  isMark : ∀ c ∈ cs, isMark c = false
  dollar : '$' ∉ cs

theorem isMark_of_isNamePart {c : Char} (h : isNamePart c = true) : isMark c = false := by
  refine Bool.eq_false_iff.2 fun hc => ?_
  simp only [isMark, isSpace, Bool.or_eq_true, decide_eq_true_eq] at hc
  rcases hc with (((((((((((rfl | rfl) | rfl) | rfl) | rfl) | rfl) | rfl) | rfl) | rfl) | rfl) |
    rfl) | rfl) | rfl <;> revert h <;> decide

theorem isNamePart_of_isNameStart {c : Char} (h : isNameStart c = true) : isNamePart c = true := by
  simp only [isNameStart, Bool.or_eq_true, beq_iff_eq] at h
  rcases h with h | rfl
  · have hw := Text.isWord_of_isAlphanum (c := c) (by simp [Char.isAlphanum, h])
    simp [isNamePart, hw]
  · decide

theorem isNamePart_of_isLocalName {cs : List Char} (h : isLocalName cs = true) :
    ∀ c ∈ cs, isNamePart c = true := by
  cases cs with
  | nil => cases h
  | cons c cs =>
    simp only [isLocalName, Bool.and_eq_true, List.all_eq_true] at h
    intro x hx
    rcases List.mem_cons.1 hx with rfl | hx
    · exact isNamePart_of_isNameStart h.1
    · exact h.2 x hx

/-- A qualified name has name characters and colons only. -/
theorem mem_of_isQualifiedName {cs : List Char} (h : isQualifiedName cs = true) :
    ∀ c ∈ cs, isNamePart c = true ∨ c = ':' := by
  simp only [isQualifiedName, Bool.and_eq_true] at h
  obtain ⟨hfirst, hrest⟩ := h
  intro c hc
  rw [← List.takeWhile_append_dropWhile (p := (· ≠ ':')) (l := cs), List.mem_append] at hc
  rcases hc with hc | hc
  · exact .inl (isNamePart_of_isLocalName hfirst c hc)
  · cases hd : cs.dropWhile (· ≠ ':') with
    | nil =>
      rw [hd] at hc
      cases hc
    | cons x rest =>
      have hx : x = ':' := by
        have := List.head?_dropWhile_not (fun c => decide (c ≠ ':')) cs
        rw [hd] at this
        simpa using this
      rw [hd] at hc hrest
      rcases List.mem_cons.1 hc with rfl | hc
      · exact .inr hx
      · exact .inl (isNamePart_of_isLocalName hrest c hc)

theorem ne_nil_of_isQualifiedName {cs : List Char} (h : isQualifiedName cs = true) : cs ≠ [] := by
  rintro rfl
  exact absurd h (by decide)

theorem IsBare.of_isQualifiedName {cs : List Char} (h : isQualifiedName cs = true) : IsBare cs where
  ne_nil := ne_nil_of_isQualifiedName h
  isMark c hc := by
    rcases mem_of_isQualifiedName h c hc with hc | rfl
    · exact isMark_of_isNamePart hc
    · decide
  dollar hc := by
    rcases mem_of_isQualifiedName h _ hc with hc | hc <;> revert hc <;> decide

theorem IsBare.lineFeed {cs : List Char} (h : IsBare cs) : '\n' ∉ cs :=
  fun hc => absurd (h.isMark _ hc) (by decide)

theorem bare_eq_self {cs : List Char} (h : '\n' ∉ cs) : bare cs = cs :=
  if_neg fun hl => h (List.mem_of_getLast? hl)

theorem bareName_eq_self {s : String} (h : '\n' ∉ s.toList) : bareName s = s := by
  rw [bareName, bare_eq_self h, String.ofList_toList]

/-- The bare form of an accepted name is qualified. -/
theorem isQualifiedName_bare {cs : List Char} (h : isName cs = true) :
    isQualifiedName (bare cs) = true := by
  simp only [isName, Bool.or_eq_true, Bool.and_eq_true, beq_iff_eq] at h
  rcases h with h | ⟨hl, h⟩
  · rwa [bare_eq_self (IsBare.of_isQualifiedName h).lineFeed]
  · rwa [bare, if_pos hl]

theorem IsBare.of_isName {cs : List Char} (h : isName cs = true) : IsBare (bare cs) :=
  .of_isQualifiedName (isQualifiedName_bare h)

/-- An accepted name is bare, or has a line feed after its bare form. -/
theorem eq_bare_of_isName {cs : List Char} (h : isName cs = true) :
    cs = bare cs ∨ cs = bare cs ++ ['\n'] := by
  by_cases hl : cs.getLast? = some '\n'
  · right
    obtain ⟨q, rfl⟩ := List.getLast?_eq_some_iff.1 hl
    rw [bare, if_pos hl, List.dropLast_concat]
  · left
    rw [bare, if_neg hl]

end InstallerKit.Markup
