import InstallerKit.Proofs.Markup.Acceptance
import InstallerKit.Proofs.Text.Occurrence
import InstallerKit.Proofs.Text.Replacement

/-!
# CDATA sections

A CDATA section ends where its end mark occurs first, and a text may have the end mark in it. A
writer then ends the section within the mark and goes on in another one, so that what it writes
for a text is a sequence of sections. Whoever reads these by their marks alone, one after the
other, finds the text in them, in pieces, and nothing between them.

* `sections?`: the contents of the sections that a text consists of;
* `exists_sections`: a text in as many sections as it takes;
* `Writer.sections_of_cdata`: what a writer writes for a text.
-/

namespace InstallerKit.Markup

open Text

/-- The contents of the sections that a text consists of. Each of them begins with the start mark
    and goes on up to the first end mark after that. If there is anything else in the text, there
    is no answer. -/
def sections? (cs : List Char) : Option (List (List Char)) :=
  if cs = [] then some []
  else
    match _h : ("<![CDATA[".toList.isPrefixOf? cs).bind (cutAt? "]]>".toList) with
    | none => none
    | some (content, rest) => (sections? rest).map (content :: ·)
termination_by cs.length
decreasing_by
  obtain ⟨inner, hstart, hend⟩ := Option.bind_eq_some_iff.1 _h
  have hlength := congrArg List.length (List.isPrefixOf?_eq_some_iff_append_eq.1 hstart)
  have hle := length_le_of_cutAt? hend
  simp at hlength
  omega

/-- A section is read up to the first end mark. -/
theorem sections?_append {content rest : List Char}
    (h : beginnings "]]>".toList content ("]]>".toList ++ rest) = 0) :
    sections? ("<![CDATA[".toList ++ (content ++ ("]]>".toList ++ rest))) =
      (sections? rest).map (content :: ·) := by
  have hstart : "<![CDATA[".toList.isPrefixOf?
      ("<![CDATA[".toList ++ (content ++ ("]]>".toList ++ rest))) =
        some (content ++ ("]]>".toList ++ rest)) :=
    List.isPrefixOf?_eq_some_iff_append_eq.2 rfl
  have hcut := (congrArg (·.bind (cutAt? "]]>".toList)) hstart).trans (cutAt?_append (by simp) h)
  rw [sections?, if_neg (by simp)]
  split
  · next hnone => cases hnone.symm.trans hcut
  · next hsome =>
    obtain ⟨rfl, rfl⟩ := Prod.mk.inj (Option.some.inj (hsome.symm.trans hcut))
    rfl

/-- No end mark begins in a piece without one, and overlaps the end mark after it. -/
theorem beginnings_endMark {cs : List Char} (h : ¬ "]]>".toList <:+: cs) (rest : List Char) :
    beginnings "]]>".toList cs ("]]>".toList ++ rest) = 0 :=
  beginnings_of_not_infix h (by decide) rest

theorem sections?_of_not_infix {cs : List Char} (h : ¬ "]]>".toList <:+: cs) :
    sections? ("<![CDATA[".toList ++ (encodeCdata cs ++ "]]>".toList)) = some [cs] := by
  have hread := sections?_append (beginnings_endMark h [])
  rw [List.append_nil] at hread
  rw [encodeCdata, replaceAll_of_not_infix (by simp) h, hread, sections?, if_pos rfl]
  rfl

/-- Where the end mark occurs first in a text, the section ends after two characters of it, and
    another one begins with the last. -/
theorem encodeCdata_append {before : List Char} (h : ¬ "]]>".toList <:+: before)
    (after : List Char) :
    encodeCdata (before ++ ("]]>".toList ++ after)) = before ++ "]]".toList ++
      ("]]>".toList ++ ("<![CDATA[".toList ++ encodeCdata ('>' :: after))) := by
  have hlast : beginnings "]]>".toList ['>'] after = 0 :=
    beginnings_of_not_mayBegin (by decide) after
  have hnext : encodeCdata ('>' :: after) = '>' :: encodeCdata after := replaceAll_append hlast _
  rw [hnext, encodeCdata, replaceAll_append (beginnings_endMark h after),
    replaceAll_append_self (by simp)]
  simp [encodeCdata]

/-- A text is written in sections, at least in one, and it is found in them again, in pieces. -/
theorem exists_sections (cs : List Char) :
    ∃ parts, parts ≠ [] ∧ parts.flatten = cs ∧
      sections? ("<![CDATA[".toList ++ (encodeCdata cs ++ "]]>".toList)) = some parts := by
  by_cases h : "]]>".toList <:+: cs
  · obtain ⟨before, after, heq, hbefore⟩ := exists_first (by simp) h
    obtain ⟨parts, -, hflatten, hread⟩ := exists_sections ('>' :: after)
    -- What has been left of the mark does not end the section either.
    have hcontent : ¬ "]]".toList ++ ['>'] <:+: before ++ "]]".toList :=
      fun hin => hbefore <| infix_of_append_infix (by decide) hin
    have hsection := sections?_append (beginnings_endMark hcontent
      ("<![CDATA[".toList ++ (encodeCdata ('>' :: after) ++ "]]>".toList)))
    rw [hread] at hsection
    refine ⟨(before ++ "]]".toList) :: parts, List.cons_ne_nil _ _, by simp [heq, hflatten], ?_⟩
    rw [heq, encodeCdata_append hbefore]
    simpa using hsection
  · exact ⟨[cs], List.cons_ne_nil _ _, by simp, sections?_of_not_infix h⟩
termination_by cs.length
decreasing_by
  simp [heq]
  omega

namespace Writer

/-- If an element is open, a text without forbidden characters is accepted as a CDATA section,
    in any state of the writer. After the end of a start tag that is still open, what is written
    is a sequence of sections, at least one, and nothing else, and their contents are the
    text. If no element is open, there is no section. -/
theorem sections_of_cdata {text : String} (h : IsClean text) (w : Writer) :
    let p := w.step (.cdata text)
    (w.level = 0 → p.text = w.closeTag.text ∧ p.error.isSome) ∧
    (0 < w.level → p.error = none ∧
      ∃ written parts, p.text = w.closeTag.text ++ written ∧
        (w.pending = false → p.text = written) ∧ sections? written = some parts ∧ parts ≠ [] ∧
        parts.flatten = text.toList) := by
  intro p
  have hp : p = w.cdata text := rfl
  simp only [cdata, find?_isForbidden.2 h, andThen_of_error_eq_none w.closeTag_error] at hp
  cases hs : w.closeTag.writer.stack with
  | nil =>
    simp only [hs] at hp
    have hlevel : w.level = 0 := by rw [level, hs]; rfl
    exact ⟨fun _ => by simp [hp, Reply.refuse], fun hpos => by omega⟩
  | cons e es =>
    simp only [hs] at hp
    have hlevel : w.level = es.length + 1 := by rw [level, hs]; rfl
    obtain ⟨parts, hne, hflatten, hread⟩ := exists_sections text.toList
    refine ⟨fun hzero => by omega, fun _ => ⟨by rw [hp]; rfl, _, parts, by rw [hp], ?_, ?_, hne,
      hflatten⟩⟩
    · intro hpending
      rw [hp, closeTag_of_not_pending hpending]
      rfl
    · rw [List.append_assoc]
      exact hread

/-- End marks that overlap, one at the end, and a bracket before the end of the section. -/
theorem sections_of_cdata_with_end_marks :
    let w := (fresh none).after [.startElement "a", .attribute "b" ""]
    let p := w.step (.cdata "]]]>]]>]")
    IsClean "]]]>]]>]" ∧ 0 < w.level ∧ p.error = none ∧
      p.text = "><![CDATA[]]]]]><![CDATA[>]]]]><![CDATA[>]]]>".toList ∧
      ∃ written parts, p.text = w.closeTag.text ++ written ∧
        (w.pending = false → p.text = written) ∧ sections? written = some parts ∧ parts ≠ [] ∧
        parts.flatten = "]]]>]]>]".toList := by
  have hclean : IsClean "]]]>]]>]" := by decide
  refine ⟨hclean, by decide +kernel, by decide +kernel, by decide +kernel, ?_⟩
  exact ((sections_of_cdata hclean _).2 (by decide +kernel)).2

end Writer

end InstallerKit.Markup
