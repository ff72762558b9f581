import InstallerKit.Markup.Writer
import InstallerKit.Proofs.Markup.Name
import InstallerKit.Proofs.Text.Occurrence

/-!
# Reading what is written

What a reader makes of the pieces that a writer's text is composed of. A reader that
has started goes on from the draft and the mode it is in, so each piece is read by
itself: the text of several pieces is read piece by piece (`feed_append`).

* `feed_encodeText`: the characters of a text;
* `feed_attribute`: an attribute in a start tag;
* `feed_startTag_end`, `feed_endTag`: the ends of tags;
* `feed_cdata`: a CDATA section, which may have been split;
* `feed_comment`, `feed_instruction`, `feed_declaration`: the rest.
-/

namespace InstallerKit.Markup

/-- The data of an instruction as they are read: a line feed that its target ends in
    divides the target from the data, and the blank after it is of the data. -/
def dataAsRead (target data : String) : String :=
  if '\n' ∈ target.toList ∧ data ≠ "" then .ofList (' ' :: data.toList) else data

namespace Reader

variable {d : Draft} {r q : Reader}

@[simp] theorem feed_nil : r.feed [] = some r := rfl

theorem feed_cons (c : Char) (cs : List Char) :
    r.feed (c :: cs) = (r.step c).bind fun r => r.feed cs := rfl

theorem feed_append (cs ds : List Char) :
    r.feed (cs ++ ds) = (r.feed cs).bind fun r => r.feed ds := by
  induction cs generalizing r with
  | nil => rfl
  | cons c cs ih =>
    rw [List.cons_append, feed_cons, feed_cons]
    cases r.step c with
    | none => rfl
    | some r => exact ih

theorem feed_of_append {cs ds : List Char} (h : r.feed cs = some q) :
    r.feed (cs ++ ds) = q.feed ds := by
  rw [feed_append, h]
  rfl

theorem feed_of_cons {c : Char} {cs : List Char} (h : r.step c = some q) :
    r.feed (c :: cs) = q.feed cs := by
  rw [feed_cons, h]
  rfl

/-- Characters that are only collected. -/
theorem feed_collect {mode : List Char → Mode} {cs : List Char}
    (h : ∀ c ∈ cs, ∀ acc, step ⟨d, mode acc⟩ c = some ⟨d, mode (acc ++ [c])⟩) (acc : List Char) :
    feed ⟨d, mode acc⟩ cs = some ⟨d, mode (acc ++ cs)⟩ := by
  induction cs generalizing acc with
  | nil => simp
  | cons c cs ih =>
    rw [feed_of_cons (h c (by simp) acc), ih fun x hx => h x (by simp [hx])]
    simp

/-! ### Character data -/

/-- A character that stands for itself. -/
theorem step_plain {c : Char} (hd : d.stack ≠ []) (hlt : c ≠ '<') (hamp : c ≠ '&') :
    step ⟨d, .content⟩ c = some ⟨d.write [c], .content⟩ := by
  simp [step, plain, hlt, hamp, hd]

/-- A reference in the content. -/
theorem feed_reference (hd : d.stack ≠ []) {word : List Char} (h : ';' ∉ word) {x : Char}
    (hx : resolve word = some x) :
    feed ⟨d, .content⟩ ('&' :: word ++ [';']) = some ⟨d.write [x], .content⟩ := by
  have hword : feed ⟨d, .reference []⟩ word = some ⟨d, .reference word⟩ := by
    refine feed_collect (fun c hc acc => ?_) []
    have hne : c ≠ ';' := fun hne => h (hne ▸ hc)
    simp [step, hne]
  rw [List.cons_append, feed_of_cons (q := ⟨d, .reference []⟩) (by simp [step, plain, hd]),
    feed_of_append hword]
  simp [feed_cons, step, hx]

/-- A character of character data is read back. -/
theorem feed_textChar (hd : d.stack ≠ []) (c : Char) :
    feed ⟨d, .content⟩ (textChar c) = some ⟨d.write [c], .content⟩ := by
  unfold textChar
  split
  · next h => subst h; exact feed_reference hd (by decide : ';' ∉ "amp".toList) rfl
  split
  · next h => subst h; exact feed_reference hd (by decide : ';' ∉ "lt".toList) rfl
  split
  · next h => subst h; exact feed_reference hd (by decide : ';' ∉ "gt".toList) rfl
  · next hamp hlt _ => exact feed_of_cons (step_plain hd hlt hamp)

/-- Character data is read back. -/
theorem feed_encodeText (hd : d.stack ≠ []) (cs : List Char) :
    feed ⟨d, .content⟩ (encodeText cs) = some ⟨d.write cs, .content⟩ := by
  induction cs generalizing d with
  | nil => simp [encodeText]
  | cons c cs ih =>
    rw [encodeText, List.flatMap_cons, feed_of_append (feed_textChar hd c)]
    refine (ih (d := d.write [c]) (by simpa using hd)).trans ?_
    simp

/-- White space is character data inside of the root, and nothing outside. -/
theorem feed_space {cs : List Char} (h : ∀ c ∈ cs, isSpace c = true) :
    feed ⟨d, .content⟩ cs = some ⟨d.write cs, .content⟩ := by
  induction cs generalizing d with
  | nil => simp
  | cons c cs ih =>
    have hc : isSpace c = true := h c (by simp)
    have hne : c ≠ '<' ∧ c ≠ '&' := by
      constructor <;> rintro rfl <;> exact absurd hc (by decide)
    rw [feed_of_cons (q := ⟨d.write [c], .content⟩), ih fun x hx => h x (by simp [hx])]
    · simp
    · by_cases hd : d.stack = []
      · simp [step, plain, hne.1, hd, hc, d.write_of_stack_eq_nil]
      · exact step_plain hd hne.1 hne.2

/-! ### Tags -/

/-- The start tag that the reader is in, as far as it has been read. -/
def Mode.tag? : Mode → Option Tag
  | .startName name => some ⟨.ofList name, []⟩
  | .between t => some t
  | .afterValue t => some t
  | _ => none

/-- The name in a start tag is read to its end. -/
theorem feed_startName {acc cs : List Char} (h : ∀ c ∈ cs, isMark c = false) :
    feed ⟨d, .startName acc⟩ cs = some ⟨d, .startName (acc ++ cs)⟩ :=
  feed_collect (fun c hc acc => by simp [step, h c hc]) acc

theorem ne_of_isMark {c x : Char} (hc : isMark c = false) (hx : isMark x = true) : c ≠ x := by
  rintro rfl
  rw [hc] at hx
  cases hx

theorem isSpace_of_isMark {c : Char} (hc : isMark c = false) : isSpace c = false := by
  simp_all [isMark]

theorem feed_attributeName {t : Tag} {acc cs : List Char} (h : ∀ c ∈ cs, isMark c = false) :
    feed ⟨d, .attributeName t acc⟩ cs = some ⟨d, .attributeName t (acc ++ cs)⟩ := by
  refine feed_collect (fun c hc acc => ?_) acc
  have hc := h c hc
  simp [step, hc, ne_of_isMark hc (x := '=') rfl, isSpace_of_isMark hc]

theorem feed_endName {acc cs : List Char} (h : ∀ c ∈ cs, isMark c = false) :
    feed ⟨d, .endName acc⟩ cs = some ⟨d, .endName (acc ++ cs)⟩ := by
  refine feed_collect (fun c hc acc => ?_) acc
  have hc := h c hc
  simp [step, hc, ne_of_isMark hc (x := '>') rfl, isSpace_of_isMark hc]

/-- The start of a start tag is read to the end of the name; a line feed after it
    is white space. -/
theorem feed_startTag {m : Mode} (hm : m = .content ∨ m = .start) {cs : List Char}
    (h : isName cs = true) :
    ∃ r, feed ⟨d, m⟩ ('<' :: cs) = some r ∧ r.draft = d ∧
      r.mode.tag? = some ⟨.ofList (bare cs), []⟩ := by
  obtain ⟨first, hfirst⟩ : ∃ first, step ⟨d, m⟩ '<' = some ⟨d, .opened first⟩ := by
    rcases hm with rfl | rfl
    · exact ⟨false, by simp [step]⟩
    · exact ⟨true, by simp [step]⟩
  have hb := IsBare.of_isName h
  -- The first character of the name tells a start tag from everything else.
  have hname : feed ⟨d, m⟩ ('<' :: bare cs) = some ⟨d, .startName (bare cs)⟩ := by
    cases hq : bare cs with
    | nil => exact absurd hq hb.ne_nil
    | cons c rest =>
      rw [hq] at hb
      have hc := hb.isMark c (by simp)
      rw [feed_of_cons hfirst, feed_of_cons (q := ⟨d, .startName [c]⟩)
        (by simp [step, afterOpening, hc, ne_of_isMark hc (x := '/') rfl,
          ne_of_isMark hc (x := '!') rfl, ne_of_isMark hc (x := '?') rfl])]
      exact feed_startName fun x hx => hb.isMark x (by simp [hx])
  rcases eq_bare_of_isName h with hcs | hcs
  · refine ⟨⟨d, .startName (bare cs)⟩, ?_, rfl, rfl⟩
    conv => lhs; rw [hcs]
    exact hname
  · refine ⟨⟨d, .between ⟨.ofList (bare cs), []⟩⟩, ?_, rfl, rfl⟩
    conv => lhs; rw [hcs]
    rw [← List.cons_append, feed_of_append hname]
    rfl

/-- A reference in a value. -/
theorem feed_valueReference {t : Tag} {name acc word : List Char} (h : ';' ∉ word) {x : Char}
    (hx : resolve word = some x) :
    feed ⟨d, .value t name '"' acc⟩ ('&' :: word ++ [';']) =
      some ⟨d, .value t name '"' (acc ++ [x])⟩ := by
  have hword : feed ⟨d, .valueReference t name '"' acc []⟩ word =
      some ⟨d, .valueReference t name '"' acc word⟩ := by
    refine feed_collect (fun c hc acc => ?_) []
    have hne : c ≠ ';' := fun hne => h (hne ▸ hc)
    simp [step, hne]
  rw [List.cons_append, feed_of_cons (q := ⟨d, .valueReference t name '"' acc []⟩)
    (by simp [step]), feed_of_append hword]
  simp [feed_cons, step, hx]

/-- A character of an attribute's value is read back. -/
theorem feed_attributeChar {t : Tag} {name acc : List Char} (c : Char) :
    feed ⟨d, .value t name '"' acc⟩ (attributeChar c) =
      some ⟨d, .value t name '"' (acc ++ [c])⟩ := by
  unfold attributeChar
  split
  · next h => subst h; exact feed_valueReference (by decide : ';' ∉ "quot".toList) rfl
  split
  · next h => subst h; exact feed_valueReference (by decide : ';' ∉ "#10".toList) rfl
  split
  · next h => subst h; exact feed_valueReference (by decide : ';' ∉ "#13".toList) rfl
  split
  · next h => subst h; exact feed_valueReference (by decide : ';' ∉ "#9".toList) rfl
  unfold textChar
  split
  · next h => subst h; exact feed_valueReference (by decide : ';' ∉ "amp".toList) rfl
  split
  · next h => subst h; exact feed_valueReference (by decide : ';' ∉ "lt".toList) rfl
  split
  · next h => subst h; exact feed_valueReference (by decide : ';' ∉ "gt".toList) rfl
  · simp [feed_cons, step, *]

theorem feed_encodeAttribute {t : Tag} {name : List Char} (acc cs : List Char) :
    feed ⟨d, .value t name '"' acc⟩ (encodeAttribute cs) =
      some ⟨d, .value t name '"' (acc ++ cs)⟩ := by
  induction cs generalizing acc with
  | nil => simp [encodeAttribute]
  | cons c cs ih =>
    rw [encodeAttribute, List.flatMap_cons, feed_of_append (feed_attributeChar c)]
    refine (ih (acc ++ [c])).trans ?_
    simp

/-- In a start tag white space leads to where an attribute may start. -/
theorem step_space_of_tag? {t : Tag} (h : r.mode.tag? = some t) :
    r.step ' ' = some ⟨r.draft, .between t⟩ := by
  obtain ⟨d, m⟩ := r
  cases m <;> simp only [Mode.tag?, Option.some.injEq, reduceCtorEq] at h <;> subst h <;>
    simp [step, inTag, isMark, isSpace]

/-- An attribute is read back. -/
theorem feed_attribute {t : Tag} (ht : r.mode.tag? = some t) {cs : List Char}
    (h : isName cs = true) (value : List Char) :
    r.feed (' ' :: cs ++ "=\"".toList ++ encodeAttribute value ++ ['"']) =
      some ⟨r.draft, .afterValue (t.add (.ofList (bare cs)) (.ofList value))⟩ := by
  have hb := IsBare.of_isName h
  have hname : feed ⟨r.draft, .between t⟩ (bare cs) =
      some ⟨r.draft, .attributeName t (bare cs)⟩ := by
    cases hq : bare cs with
    | nil => exact absurd hq hb.ne_nil
    | cons c rest =>
      rw [hq] at hb
      have hc := hb.isMark c (by simp)
      rw [feed_of_cons (q := ⟨r.draft, .attributeName t [c]⟩) (by
        simp [step, inTag, hc, isSpace_of_isMark hc, ne_of_isMark hc (x := '>') rfl,
          ne_of_isMark hc (x := '/') rfl])]
      exact feed_attributeName fun x hx => hb.isMark x (by simp [hx])
  have hequals : feed ⟨r.draft, .between t⟩ (cs ++ ['=']) =
      some ⟨r.draft, .beforeValue t (bare cs)⟩ := by
    rcases eq_bare_of_isName h with hcs | hcs
    · conv => lhs; rw [hcs]
      rw [feed_of_append hname]
      simp [feed_cons, step]
    · conv => lhs; rw [hcs]
      rw [List.append_assoc, feed_of_append hname]
      simp [feed_cons, step, isSpace]
  have hvalue : feed ⟨r.draft, .beforeValue t (bare cs)⟩ ('"' :: encodeAttribute value ++ ['"']) =
      some ⟨r.draft, .afterValue (t.add (.ofList (bare cs)) (.ofList value))⟩ := by
    rw [List.cons_append, feed_of_cons (q := ⟨r.draft, .value t (bare cs) '"' []⟩) (by simp [step]),
      feed_of_append (feed_encodeAttribute [] value)]
    simp [feed_cons, step]
  have hsplit : ' ' :: cs ++ "=\"".toList ++ encodeAttribute value ++ ['"'] =
      ' ' :: ((cs ++ ['=']) ++ ('"' :: encodeAttribute value ++ ['"'])) := by simp
  rw [hsplit, feed_of_cons (step_space_of_tag? ht), feed_of_append hequals, hvalue]

/-- The end of a start tag. -/
theorem feed_startTag_end {t : Tag} (h : r.mode.tag? = some t) (isEmpty : Bool) :
    r.feed (if isEmpty then "/>".toList else ">".toList) = open? r.draft t isEmpty := by
  obtain ⟨d, m⟩ := r
  cases m <;> simp only [Mode.tag?, Option.some.injEq, reduceCtorEq] at h <;> subst h <;>
    cases isEmpty <;> simp [feed_cons, step, inTag, isMark, isSpace]

/-- The end tag of the innermost open element. -/
theorem feed_endTag {cs : List Char} (h : isName cs = true) {names : List String}
    (hd : d.names = .ofList (bare cs) :: names) :
    feed ⟨d, .content⟩ ("</".toList ++ cs ++ ['>']) = some ⟨d.finish, .content⟩ := by
  have hb := IsBare.of_isName h
  have hclose : close? d (bare cs) = some ⟨d.finish, .content⟩ := by
    unfold close?
    split
    · next hs => simp [Draft.names, hs] at hd
    · next f rest hs =>
      simp only [Draft.names, hs, List.map_cons, List.cons.injEq] at hd
      rw [if_pos hd.1]
  have hname : feed ⟨d, .content⟩ ("</".toList ++ bare cs) = some ⟨d, .endName (bare cs)⟩ := by
    rw [feed_of_append (q := ⟨d, .endName []⟩) (by simp [feed_cons, step, afterOpening])]
    exact feed_endName hb.isMark
  rcases eq_bare_of_isName h with hcs | hcs
  · conv => lhs; rw [hcs]
    rw [feed_of_append hname]
    simp [feed_cons, step, hclose]
  · conv => lhs; rw [hcs]
    rw [← List.append_assoc, List.append_assoc, feed_of_append hname]
    simp [feed_cons, step, isSpace, hclose]

/-! ### Comments, CDATA sections and instructions -/

/-- A section goes on as long as its end does not occur. -/
theorem feed_within {part : Section} (acc : List Char) {cs : List Char}
    (h : ∀ u v, cs = u ++ '>' :: v → ¬ part.stop <:+ acc ++ u) :
    feed ⟨d, .within part acc⟩ cs = some ⟨d, .within part (acc ++ cs)⟩ := by
  induction cs generalizing acc with
  | nil => simp
  | cons c cs ih =>
    have hstep : step ⟨d, .within part acc⟩ c = some ⟨d, .within part (acc ++ [c])⟩ := by
      refine if_neg ?_
      rintro ⟨rfl, hstop⟩
      exact h [] cs rfl (by simpa using hstop)
    rw [feed_of_cons hstep, ih]
    · simp
    · rintro u v rfl hu
      exact h (c :: u) v rfl (by simpa using hu)

/-- The end of a section. -/
theorem feed_within_stop (part : Section) (text : List Char) :
    feed ⟨d, .within part text⟩ (part.stop ++ ['>']) = section? d part text := by
  have hstop : feed ⟨d, .within part text⟩ part.stop =
      some ⟨d, .within part (text ++ part.stop)⟩ := by
    refine feed_within text fun u v h => absurd h ?_
    intro h
    have : '>' ∈ part.stop := by simp [h]
    cases part <;> simp [Section.stop] at this
  rw [feed_of_append hstop, feed_cons]
  simp [step]

/-- A section is read to its end, which is the first place where the end occurs. -/
theorem feed_section (part : Section) {text : List Char} (h : ¬ part.stop ++ ['>'] <:+: text) :
    feed ⟨d, .within part []⟩ (text ++ part.stop ++ ['>']) = section? d part text := by
  rw [List.append_assoc, feed_of_append (feed_within [] ?_)]
  · exact feed_within_stop part text
  · rintro u v rfl hu
    exact h (Text.infix_of_suffix hu)

theorem feed_comment_start {m : Mode} (hm : m = .content ∨ m = .start) :
    feed ⟨d, m⟩ "<!--".toList = some ⟨d, .within .comment []⟩ := by
  rcases hm with rfl | rfl <;> rfl

/-- A comment is read back. -/
theorem feed_comment {m : Mode} (hm : m = .content ∨ m = .start) {text : String}
    (h : Text.contains text "--" = false) :
    feed ⟨d, m⟩ ("<!--".toList ++ text.toList ++ "-->".toList) =
      some ⟨d.addAside (.comment text), .content⟩ := by
  rw [List.append_assoc, feed_of_append (feed_comment_start hm)]
  refine (List.append_assoc .. ▸ feed_section .comment ?_).trans ?_
  · exact fun hin => Text.contains_eq_false_iff.1 h (List.IsInfix.trans ⟨[], ['>'], rfl⟩ hin)
  · simp [section?]

theorem feed_cdata_start : feed ⟨d, .content⟩ "<![CDATA[".toList = some ⟨d, .within .cdata []⟩ :=
  rfl

/-- The end of a CDATA section, the brackets of which may be some more. -/
theorem feed_cdata_stop (hd : d.stack ≠ []) (text : List Char) :
    feed ⟨d, .within .cdata text⟩ "]]>".toList = some ⟨d.write text, .content⟩ := by
  refine (feed_within_stop .cdata text).trans ?_
  simp [section?, hd]

theorem encodeCdata_split (cs : List Char) :
    encodeCdata (']' :: ']' :: '>' :: cs) =
      "]]".toList ++ "]]>".toList ++ "<![CDATA[".toList ++ '>' :: encodeCdata cs := rfl

theorem encodeCdata_cons {c : Char} {cs : List Char} (h : ¬ "]]>".toList <+: c :: cs) :
    encodeCdata (c :: cs) = c :: encodeCdata cs := by
  rw [← List.isPrefixOf_iff_prefix, Bool.not_eq_true] at h
  rw [encodeCdata, Text.replaceAll, Text.replaceFrom, h]
  rfl

/-- The payload of a CDATA section is read back, with the sections that it has been
    split into. What has been read of the present section must not make an end of the
    section together with what follows. -/
theorem feed_encodeCdata {d : Draft} (hd : d.stack ≠ []) (cs acc : List Char)
    (h₁ : [']'] <:+ acc → ¬ [']', '>'] <+: cs) (h₂ : [']', ']'] <:+ acc → ¬ ['>'] <+: cs) :
    feed ⟨d, .within .cdata acc⟩ (encodeCdata cs ++ "]]>".toList) =
      some ⟨d.write (acc ++ cs), .content⟩ := by
  match cs with
  | [] => exact (feed_cdata_stop hd acc).trans (by simp)
  | c :: cs =>
    by_cases hend : "]]>".toList <+: c :: cs
    · -- The section ends after two of the brackets, and the next one starts with the rest.
      obtain ⟨rest, hrest⟩ := hend
      obtain ⟨rfl, rfl⟩ : c = ']' ∧ cs = ']' :: '>' :: rest := by simpa using hrest.symm
      have hbrackets : feed ⟨d, .within .cdata acc⟩ "]]".toList =
          some ⟨d, .within .cdata (acc ++ "]]".toList)⟩ := by
        refine feed_within acc fun u v h => ?_
        have : '>' ∈ "]]".toList := by simp [h]
        exact absurd this (by decide)
      have hstart : step ⟨d.write (acc ++ "]]".toList), .within .cdata []⟩ '>' =
          some ⟨d.write (acc ++ "]]".toList), .within .cdata ['>']⟩ := by
        simp [step, Section.stop]
      simp only [encodeCdata_split, List.append_assoc, List.cons_append]
      rw [feed_of_append hbrackets, feed_of_append (feed_cdata_stop hd _),
        feed_of_append feed_cdata_start, feed_of_cons hstart,
        feed_encodeCdata (d := d.write (acc ++ "]]".toList)) (by simpa using hd) rest ['>']
          (by simp [List.suffix_cons_iff]) (by simp [List.suffix_cons_iff])]
      simp
    · have hstep : step ⟨d, .within .cdata acc⟩ c = some ⟨d, .within .cdata (acc ++ [c])⟩ := by
        refine if_neg ?_
        rintro ⟨rfl, hstop⟩
        exact h₂ hstop (by simp)
      rw [encodeCdata_cons hend, List.cons_append, feed_of_cons hstep,
        feed_encodeCdata hd cs (acc ++ [c])]
      · simp
      · intro hacc hcs
        obtain ⟨u, hu⟩ := hacc
        obtain ⟨rfl, rfl⟩ : u = acc ∧ ']' = c := by simpa using List.append_inj' hu rfl
        exact hend (by simpa using hcs)
      · intro hacc hcs
        obtain ⟨u, hu⟩ := hacc
        obtain ⟨rfl, rfl⟩ : u ++ [']'] = acc ∧ ']' = c := by
          have : (u ++ [']']) ++ [']'] = acc ++ [c] := by simpa using hu
          simpa using List.append_inj' this rfl
        exact h₁ ⟨u, rfl⟩ (by simpa using hcs)
termination_by cs.length

/-- The text of a CDATA section is read back as character data. -/
theorem feed_cdata (hd : d.stack ≠ []) (text : List Char) :
    feed ⟨d, .content⟩ ("<![CDATA[".toList ++ encodeCdata text ++ "]]>".toList) =
      some ⟨d.write text, .content⟩ := by
  rw [List.append_assoc, feed_of_append feed_cdata_start,
    feed_encodeCdata hd text [] (by simp) (by simp), List.nil_append]

/-- The target of an instruction, and what divides it from its data, come apart. -/
theorem section?_instruction {first : Bool} {q rest : List Char} (hq : IsBare q)
    (hrest : ∀ c ∈ rest.head?, isSpace c = true) (hxml : first = true → q ≠ ['x', 'm', 'l']) :
    Reader.section? d (.instruction first) (q ++ rest) =
      some ⟨d.addAside (.instruction (.ofList q) (.ofList (rest.drop 1))), .content⟩ := by
  have hall : ∀ c ∈ q, (!isSpace c) = true := fun c hc => by
    rw [isSpace_of_isMark (hq.isMark c hc)]
    rfl
  have htake : (q ++ rest).takeWhile (fun c => !isSpace c) = q := by
    rw [List.takeWhile_append_of_pos hall]
    cases rest with
    | nil => simp
    | cons c rest => simp [hrest c (by simp)]
  have hdrop : (q ++ rest).dropWhile (fun c => !isSpace c) = rest := by
    rw [List.dropWhile_append_of_pos hall]
    cases rest with
    | nil => rfl
    | cons c rest => simp [hrest c (by simp)]
  have hq' : q.isEmpty = false := by simpa using hq.ne_nil
  have hfirst : (first && decide (q = ['x', 'm', 'l'])) = false := by
    cases first with
    | false => rfl
    | true => simpa using hxml rfl
  simp only [section?, htake, hdrop, hq', hfirst, Bool.false_eq_true, if_false]

theorem feed_instruction_start {m : Mode} (hm : m = .content ∨ m = .start) :
    ∃ first, feed ⟨d, m⟩ "<?".toList = some ⟨d, .within (.instruction first) []⟩ ∧
      (first = true → m = .start) := by
  rcases hm with rfl | rfl
  · exact ⟨false, rfl, by simp⟩
  · exact ⟨true, rfl, by simp⟩

/-- The end of an instruction does not occur in it. -/
theorem not_infix_instruction {target data : String} (ht : isName target.toList = true)
    (hdata : Text.contains data "?>" = false) :
    ¬ "?>".toList <:+: target.toList ++ (if data = "" then [] else ' ' :: data.toList) := by
  have hbare : '?' ∉ bare target.toList := fun hc =>
    absurd ((IsBare.of_isName ht).isMark _ hc) (by decide)
  have hmark : '?' ∉ target.toList := by
    rcases eq_bare_of_isName ht with h | h <;> rw [h]
    · exact hbare
    · simp [hbare]
  intro h
  have h := Text.infix_of_infix_append hmark h
  split at h
  · simp at h
  · exact Text.contains_eq_false_iff.1 hdata
      (Text.infix_of_infix_append (by decide : '?' ∉ [' ']) h)

/-- An instruction is read back, unless it looks like a declaration. -/
theorem feed_instruction {m : Mode} (hm : m = .content ∨ m = .start) {target data : String}
    (ht : isName target.toList = true) (hdata : Text.contains data "?>" = false)
    (hxml : m = .content ∨ bareName target ≠ "xml") :
    feed ⟨d, m⟩ ("<?".toList ++ target.toList ++
        (if data = "" then [] else ' ' :: data.toList) ++ "?>".toList) =
      some ⟨d.addAside (.instruction (bareName target) (dataAsRead target data)), .content⟩ := by
  have hb := IsBare.of_isName ht
  have hend := not_infix_instruction ht hdata
  obtain ⟨first, hopen, hm⟩ := feed_instruction_start (d := d) hm
  have hfirst : first = true → bare target.toList ≠ ['x', 'm', 'l'] := by
    rintro hs hx
    rcases hxml with rfl | hxml
    · cases hm hs
    · exact hxml (by rw [bareName, hx])
  rw [List.append_assoc "<?".toList, List.append_assoc "<?".toList, feed_of_append hopen]
  refine (List.append_assoc .. ▸ feed_section (.instruction first) hend).trans ?_
  rcases eq_bare_of_isName ht with h | h
  · have hlf : '\n' ∉ target.toList := h ▸ hb.lineFeed
    conv => lhs; rw [h]
    rw [section?_instruction hb (by split <;> simp [isSpace]) hfirst]
    by_cases hd : data = "" <;> simp [bareName, dataAsRead, hlf, hd]
  · have hlf : '\n' ∈ target.toList := h ▸ by simp
    conv => lhs; rw [h]
    rw [List.append_assoc, section?_instruction hb (by simp [isSpace]) hfirst]
    by_cases hd : data = "" <;> simp [bareName, dataAsRead, hlf, hd]

/-- The declaration is read back. -/
theorem feed_declaration :
    fresh.feed ("<?xml version=\"".toList ++ "1.0".toList ++ "\" encoding=\"".toList ++
        "utf-8".toList ++ "\"?>".toList) =
      some ⟨{ Draft.empty with declaration := some (declarationText "1.0" "utf-8") },
        .content⟩ := by
  rfl

end Reader

end InstallerKit.Markup
