import InstallerKit.Proofs.Markup.Grammar
import InstallerKit.Proofs.Markup.ReadBack

/-!
# What is written is well-formed

What a writer has written so far is the beginning of a well-formed document, or a whole
one: its tags are complete, up to one that is still open, and the elements that it leaves
open are those on the stack (`Sound`). Every call keeps it so, whether it is refused or
not, as long as the names that the writer accepts are names in documents.

The writer accepts other names, too. Word characters need not be name characters, and
the line feed that a name may end in makes a name of an attribute different from the same
name without it, and the target of an instruction different from `xml`.

* `Sound.step`: a call keeps what has been written the beginning of a document;
* `isDocument_output`: what is written is well-formed, and read as what the accepted calls
  make;
* `not_isDocument_of_reserved_target`: with such a target, what is written is no document.
-/

namespace InstallerKit.Markup

/-! ### What is written of texts -/

namespace Xml

theorem isChar_of_not_isForbidden {c : Char} (h : isForbidden c = false) : isChar c = true := by
  have hvalid : c.toNat < 0xd800 ∨ 0xdfff < c.toNat ∧ c.toNat < 0x110000 := c.valid
  simp only [isForbidden, Bool.or_eq_false_iff, Bool.and_eq_false_iff, decide_eq_false_iff_not,
    beq_eq_false_iff_ne, ne_eq] at h
  simp only [isChar, Text.Ranges.contains, List.any_cons, List.any_nil, Bool.or_eq_true,
    Bool.and_eq_true, decide_eq_true_eq, Bool.false_eq_true, or_false]
  omega

theorem isChars_of_find?_isForbidden {cs : List Char} (h : cs.find? isForbidden = none) :
    IsChars cs := fun c hc =>
  isChar_of_not_isForbidden (by simpa using List.find?_eq_none.1 h c hc)

/-- A character of a text is written as it is, or as a reference. -/
theorem textChar_cases (c : Char) :
    IsReference (textChar c) ∨ textChar c = [c] ∧ c ≠ '&' ∧ c ≠ '<' ∧ c ≠ '>' := by
  unfold textChar
  split
  · exact .inl (.entity (show "amp" ∈ _ by simp))
  split
  · exact .inl (.entity (show "lt" ∈ _ by simp))
  split
  · exact .inl (.entity (show "gt" ∈ _ by simp))
  · exact .inr ⟨rfl, by assumption, by assumption, by assumption⟩

theorem attributeChar_cases (c : Char) :
    IsReference (attributeChar c) ∨ attributeChar c = [c] ∧ c ≠ '<' ∧ c ≠ '&' ∧ c ≠ '"' := by
  unfold attributeChar
  split
  · exact .inl (.entity (show "quot" ∈ _ by simp))
  split
  · exact .inl (.decimal (show ∀ d ∈ "10".toList, _ by simp)
      (show _ = '\n'.toNat by decide) (by decide))
  split
  · exact .inl (.decimal (show ∀ d ∈ "13".toList, _ by simp)
      (show _ = '\r'.toNat by decide) (by decide))
  split
  · exact .inl (.decimal (show ∀ d ∈ "9".toList, _ by simp)
      (show _ = '\t'.toNat by decide) (by decide))
  · rcases textChar_cases c with h | ⟨h, hamp, hlt, -⟩
    · exact .inl h
    · exact .inr ⟨h, hlt, hamp, by assumption⟩

theorem isValue_encodeAttribute {cs : List Char} (h : IsChars cs) :
    IsValue '"' (encodeAttribute cs) := by
  induction cs with
  | nil => exact .nil
  | cons c cs ih =>
    obtain ⟨hc, hcs⟩ := List.forall_mem_cons.1 h
    rw [encodeAttribute, List.flatMap_cons]
    rcases attributeChar_cases c with hr | ⟨heq, hmark⟩
    · exact .reference hr (ih hcs)
    · rw [heq]
      exact .char hc hmark (ih hcs)

/-- A text can follow any content: it has no character that could end something. -/
theorem IsContent.append_encodeText {t cs : List Char} (ht : IsContent t) (h : IsChars cs) :
    IsContent (t ++ encodeText cs) := by
  induction cs generalizing t with
  | nil => simpa [encodeText] using ht
  | cons c cs ih =>
    obtain ⟨hc, hcs⟩ := List.forall_mem_cons.1 h
    rw [encodeText, List.flatMap_cons, ← List.append_assoc]
    refine ih ?_ hcs
    rcases textChar_cases c with hr | ⟨heq, hamp, hlt, hgt⟩
    · exact ht.append_item (.inl hr)
    · have hplain : IsCharData [c] := by
        refine ⟨by simpa [IsChars] using hc, by simpa using Ne.symm hlt,
          by simpa using Ne.symm hamp, fun hend => ?_⟩
        exact absurd hend.length_le (by simp)
      rw [heq]
      exact ht.append_plain hplain (by simpa using Ne.symm hgt)

/-! ### Sections -/

/-- A payload without the end of a section is written as it is. Otherwise the section ends
    before the last character of the first one, which the next section starts with. -/
theorem encodeCdata_cases (cs : List Char) :
    (¬ "]]>".toList <:+: cs ∧ encodeCdata cs = cs) ∨
      ∃ u v, cs = u ++ ("]]".toList ++ '>' :: v) ∧ ¬ "]]>".toList <:+: u ++ "]]".toList ∧
        encodeCdata cs = u ++ ("]]".toList ++ ("]]>".toList ++ ("<![CDATA[".toList ++
          '>' :: encodeCdata v))) := by
  induction cs with
  | nil => exact .inl ⟨by simp, rfl⟩
  | cons c cs ih =>
    by_cases hend : "]]>".toList <+: c :: cs
    · obtain ⟨v, hv⟩ := hend
      obtain ⟨rfl, rfl⟩ : c = ']' ∧ cs = ']' :: '>' :: v := by simpa using hv.symm
      exact .inr ⟨[], v, rfl, by decide, rfl⟩
    rw [Reader.encodeCdata_cons hend]
    rcases ih with ⟨hno, heq⟩ | ⟨u, v, rfl, hno, heq⟩
    · exact .inl ⟨by rw [List.infix_cons_iff, not_or]; exact ⟨hend, hno⟩, by rw [heq]⟩
    · refine .inr ⟨c :: u, v, rfl, ?_, by rw [heq]; rfl⟩
      rw [List.cons_append, List.infix_cons_iff, not_or]
      refine ⟨fun hstart => hend (hstart.trans ?_), hno⟩
      exact ⟨'>' :: v, by simp⟩

/-- A payload is written as several sections if it would end the first one. What has been
    written of this one already, `pre`, is nothing or the end of an end. -/
theorem IsContent.append_sections {t : List Char} (ht : IsContent t) (pre cs : List Char)
    (hpre : ∀ ds, "]]>".toList <:+: pre ++ ds → "]]>".toList <:+: ds) (h : IsChars (pre ++ cs)) :
    IsContent (t ++ ("<![CDATA[".toList ++ (pre ++ (encodeCdata cs ++ "]]>".toList)))) := by
  rcases encodeCdata_cases cs with ⟨hno, heq⟩ | ⟨u, v, rfl, hno, heq⟩
  · rw [heq, ← List.append_assoc pre]
    exact ht.append_item (.inr (.inl ⟨_, rfl, h, mt (hpre cs) hno⟩))
  · have hchars : IsChars ((pre ++ (u ++ "]]".toList)) ++ '>' :: v) := by simpa using h
    obtain ⟨hfirst, hlast⟩ := List.forall_mem_append.1 hchars
    have hsection : IsItem ("<![CDATA[".toList ++ ((pre ++ (u ++ "]]".toList)) ++ "]]>".toList)) :=
      .inr (.inl ⟨_, rfl, hfirst, mt (hpre _) hno⟩)
    have hgt (ds : List Char) (hds : "]]>".toList <:+: ['>'] ++ ds) : "]]>".toList <:+: ds :=
      (List.infix_cons_iff.1 hds).resolve_left fun hstart =>
        absurd (List.cons_prefix_cons.1 hstart).1 (by decide)
    -- The next section starts with a bracket that cannot belong to an end in it.
    have hrest := (ht.append_item hsection).append_sections ['>'] v hgt hlast
    rw [heq]
    simpa using hrest
termination_by cs.length
decreasing_by
  subst_vars
  simp only [List.length_append, List.length_cons]
  omega

theorem IsContent.append_cdata {t cs : List Char} (ht : IsContent t) (h : IsChars cs) :
    IsContent (t ++ ("<![CDATA[".toList ++ encodeCdata cs ++ "]]>".toList)) := by
  simpa using ht.append_sections [] cs (fun _ h => h) h

theorem isComment_of_checked {text : String} (hchars : IsChars text.toList)
    (h : ¬ (Text.contains text "--" || text.toList.getLast? == some '-') = true) :
    IsComment ("<!--".toList ++ text.toList ++ "-->".toList) := by
  rw [Bool.or_eq_true, not_or, Bool.not_eq_true, Text.contains_eq_false_iff, beq_iff_eq] at h
  exact ⟨_, List.append_assoc .., hchars, h.1, h.2⟩

end Xml

/-! ### Names -/

theorem isXmlNameStart_of_isNameStart {c : Char} (h : isNameStart c = true) :
    Xml.isNameStart c = true := by
  simp only [Xml.isNameStart, Text.Ranges.contains, List.any_cons, List.any_nil, Bool.or_eq_true,
    Bool.and_eq_true, decide_eq_true_eq, Bool.false_eq_true, or_false]
  simp only [isNameStart, Bool.or_eq_true, beq_iff_eq] at h
  rcases h with halpha | rfl
  · have halpha : (decide (65 ≤ c.val ∧ c.val ≤ 90) ||
        (decide (97 ≤ c.val) && decide (c.val ≤ 122))) = true := halpha
    simp only [Bool.or_eq_true, Bool.and_eq_true, decide_eq_true_eq] at halpha
    simp only [UInt32.le_iff_toNat_le] at halpha
    have hn : c.val.toNat = c.toNat := rfl
    have hbounds : (65 : UInt32).toNat = 65 ∧ (90 : UInt32).toNat = 90 ∧
      (97 : UInt32).toNat = 97 ∧ (122 : UInt32).toNat = 122 := by decide
    omega
  · decide

/-- An accepted name is one in documents, but for a line feed at its end, if it has no
    other characters than names have there. -/
theorem isXmlName_bare {cs : List Char} (h : isName cs = true)
    (hchars : ∀ c ∈ bare cs, Xml.isNameChar c = true) : Xml.IsName (bare cs) := by
  refine ⟨?_, hchars⟩
  have hq := isQualifiedName_bare h
  cases hb : bare cs with
  | nil => exact absurd hb (ne_nil_of_isQualifiedName hq)
  | cons c rest =>
    refine ⟨c, rest, rfl, isXmlNameStart_of_isNameStart ?_⟩
    rw [hb, isQualifiedName, Bool.and_eq_true] at hq
    by_cases hc : c = ':'
    · simp [hc, isLocalName] at hq
    · have hlocal := hq.1
      rw [List.takeWhile_cons_of_pos (by simpa using hc), isLocalName, Bool.and_eq_true] at hlocal
      exact hlocal.1

/-- The characters of a name that are no name characters in documents are none, or only a
    line feed at its end. -/
theorem exists_spaces_of_isName {cs : List Char} (h : isName cs = true) :
    ∃ s, Xml.IsSpaces s ∧ cs = bare cs ++ s := by
  rcases eq_bare_of_isName h with heq | heq
  · exact ⟨[], by simp [Xml.IsSpaces], by rw [List.append_nil]; exact heq⟩
  · exact ⟨['\n'], by simp [Xml.IsSpaces, isSpace], heq⟩

theorem bare_of_isXmlNameChar {cs : List Char} (h : ∀ c ∈ cs, Xml.isNameChar c = true) :
    bare cs = cs :=
  bare_eq_self fun hmem => absurd (h _ hmem) (by decide)

theorem isXmlName_of_isXmlNameChar {cs : List Char} (h : isName cs = true)
    (hchars : ∀ c ∈ cs, Xml.isNameChar c = true) : Xml.IsName cs := by
  have hbare := bare_of_isXmlNameChar hchars
  rw [← hbare]
  exact isXmlName_bare h (by rwa [hbare])

theorem Xml.isInstruction_of_checked {target data : String}
    (htarget : ¬ (!isName target.toList || target.toLower = "xml") = true)
    (hchars : ∀ c ∈ target.toList, Xml.isNameChar c = true)
    (hdata : ¬ Text.contains data "?>" = true) (hdchars : IsChars data.toList) :
    IsInstruction ("<?".toList ++ target.toList ++ (if data = "" then [] else ' ' :: data.toList) ++
      "?>".toList) := by
  simp only [Bool.or_eq_true, not_or, Bool.not_eq_true', Bool.not_eq_false, decide_eq_true_eq]
    at htarget
  rw [Bool.not_eq_true, Text.contains_eq_false_iff] at hdata
  obtain ⟨hname, hxml⟩ := htarget
  have hreserved : target.toList.map Char.toLower ≠ "xml".toList := fun heq =>
    hxml (String.toList_injective ((String.toList_map ..).trans heq))
  refine ⟨target.toList, if data = "" then [] else [' '], data.toList, ?_,
    isXmlName_of_isXmlNameChar hname hchars, hreserved, ?_, ?_, hdchars, hdata⟩
  · split <;> simp_all
  · split <;> simp [IsSpaces, isSpace]
  · split <;> simp_all

/-! ### Beginnings of documents -/

/-- The beginning of a document in which elements of some names are open, the innermost one
    first, and no tag is. -/
inductive IsOpen : List (List Char) → List Char → Prop
  | prolog {t : List Char} (h : Xml.IsProlog t) : IsOpen [] t
  | inside {name : List Char} {names attributes : List (List Char)} {t tag content : List Char}
    (h : IsOpen names t) (htag : Xml.IsTag name attributes tag) (hc : Xml.IsContent content) :
    IsOpen (name :: names) (t ++ (tag ++ '>' :: content))

/-- The beginning of a document, or a document, depending on whether its root is closed. -/
def Stands (closed : Bool) (names : List (List Char)) (t : List Char) : Prop :=
  match closed with
  | true => names = [] ∧ Xml.IsDocument t
  | false => IsOpen names t

theorem Stands.misc {closed : Bool} {t x : List Char} (h : Stands closed [] t)
    (hx : Xml.IsMisc x) : Stands closed [] (t ++ x) := by
  cases closed with
  | true =>
    obtain ⟨-, p, r, ms, rfl, hp, hr, hms⟩ := h
    exact ⟨rfl, p, r, ms ++ x, by simp, hp, hr, hms.append_misc hx⟩
  | false =>
    cases h with
    | prolog h =>
      obtain ⟨d, ms, rfl, hd, hms⟩ := h
      exact .prolog ⟨d, ms ++ x, by simp, hd, hms.append_misc hx⟩

theorem Stands.not_closed {closed : Bool} {n : List Char} {ns : List (List Char)} {t : List Char}
    (h : Stands closed (n :: ns) t) : closed = false := by
  cases closed with
  | true => exact absurd h.1 (by simp)
  | false => rfl

theorem IsOpen.content {n : List Char} {ns : List (List Char)} {t x : List Char}
    (h : IsOpen (n :: ns) t) (hx : ∀ {c}, Xml.IsContent c → Xml.IsContent (c ++ x)) :
    IsOpen (n :: ns) (t ++ x) := by
  cases h with
  | inside h htag hc => simpa using IsOpen.inside h htag (hx hc)

/-- An element in another one is part of its content. Outside of any other it is the root. -/
theorem IsOpen.element {ns : List (List Char)} {t x : List Char} (h : IsOpen ns t)
    (hx : Xml.IsElement x) : Stands ns.isEmpty ns (t ++ x) := by
  cases ns with
  | nil =>
    cases h with
    | prolog h => exact ⟨rfl, t, x, [], by simp, h, hx, [], rfl, by simp⟩
  | cons n ns => exact h.content (·.append_element hx)

/-- An end tag ends the innermost element. -/
theorem IsOpen.close {n : List Char} {ns : List (List Char)} {t s : List Char}
    (h : IsOpen (n :: ns) t) (hs : Xml.IsSpaces s) :
    Stands ns.isEmpty ns (t ++ ("</".toList ++ (n ++ (s ++ ['>'])))) := by
  cases h with
  | inside h htag hc =>
    simpa using h.element (.inr ⟨_, hc, _, _, _, s, htag, hs, rfl⟩)

/-! ### What a writer has written -/

/-- The names of elements, as they are read. -/
def bareNames (es : List OpenElement) : List (List Char) :=
  es.map fun e => bare e.name.toList

/-- A writer with no start tag open has written the beginning of a document. -/
structure Sound.Settled (w : Writer) (t : List Char) : Prop where
  blank : IsBlankIndent w.indent
  pending : w.pending = false
  stands : Stands w.rootClosed (bareNames w.stack) t
  isName : ∀ e ∈ w.stack, isName e.name.toList = true
  fresh : w.started = false → t = [] ∧ w.stack = [] ∧ w.rootClosed = false

/-- A writer has written the beginning of a document, and a start tag after it that is
    still open. -/
structure Sound.InTag (w : Writer) (t : List Char) (e : OpenElement) (es : List OpenElement) :
    Prop where
  blank : IsBlankIndent w.indent
  pending : w.pending = true
  started : w.started = true
  stack : w.stack = e :: es
  isName : ∀ x ∈ e :: es, isName x.name.toList = true
  closed : w.rootClosed = false
  text : ∃ before tag, t = before ++ tag ∧ IsOpen (bareNames es) before ∧
    Xml.IsTag (bare e.name.toList) (e.attributes.map String.toList) tag

/-- What a writer has written is the beginning of a document with the elements open that the
    writer keeps. -/
inductive Sound (w : Writer) (t : List Char) : Prop
  | settled (h : Sound.Settled w t)
  | inTag (e : OpenElement) (es : List OpenElement) (h : Sound.InTag w t e es)

/-- A reply adds to what has been written, and it is still the beginning of a document. -/
def Reply.IsSound (t : List Char) (p : Reply) : Prop :=
  Sound p.writer (t ++ p.text)

namespace Sound

variable {w : Writer} {t : List Char}

theorem andThen {p : Reply} {next : Writer → Reply} (hp : p.error = none)
    (h : (next p.writer).IsSound (t ++ p.text)) : (p.andThen next).IsSound t := by
  rw [Reply.IsSound, Writer.andThen_of_error_eq_none hp, ← List.append_assoc]
  exact h

theorem refuse (h : Sound w t) (e : Error) : (Reply.refuse w e).IsSound t := by
  rw [Reply.IsSound, Reply.refuse, List.append_nil]
  exact h

theorem nothing (h : Sound w t) : (Reply.ok w []).IsSound t := by
  rw [Reply.IsSound, Reply.ok, List.append_nil]
  exact h

theorem Settled.not_closed (h : Settled w t) {e : OpenElement} {es : List OpenElement}
    (hs : w.stack = e :: es) : w.rootClosed = false := by
  have hstands := h.stands
  rw [hs] at hstands
  exact hstands.not_closed

theorem Settled.isOpen (h : Settled w t) {e : OpenElement} {es : List OpenElement}
    (hs : w.stack = e :: es) : IsOpen (bareNames (e :: es)) t := by
  have hstands := h.stands
  rw [h.not_closed hs, hs] at hstands
  exact hstands

theorem Settled.started (h : Settled w t) {e : OpenElement} {es : List OpenElement}
    (hs : w.stack = e :: es) : w.started = true := by
  cases hst : w.started with
  | true => rfl
  | false => exact absurd (h.fresh hst).2.1 (by simp [hs])

/-- The start tag is closed as that of an element without content. -/
theorem InTag.pop {e : OpenElement} {es : List OpenElement} (h : InTag w t e es) :
    Settled { w with pending := false }.pop (t ++ "/>".toList) := by
  obtain ⟨before, tag, rfl, hopen, htag⟩ := h.text
  have hx : Xml.IsElement (tag ++ "/>".toList) := .inl ⟨_, _, tag, htag, rfl⟩
  have hnames := (List.forall_mem_cons.1 h.isName).2
  refine ⟨h.blank, rfl, ?_, by simpa [Writer.pop, h.stack] using hnames, fun hst => ?_⟩
  · simpa [Writer.pop, h.closed, h.stack, bareNames] using hopen.element hx
  · exact absurd hst (by simp [Writer.pop, h.started])

/-- A start tag is closed as that of an element with or without content. -/
theorem closeTag (h : Sound w t) : Settled w.closeTag.writer (t ++ w.closeTag.text) := by
  cases h with
  | settled h =>
    rw [Writer.closeTag_of_not_pending h.pending]
    simpa [Reply.ok] using h
  | inTag e es h =>
    have hpop := h.pop
    rw [h.stack] at hpop
    simp only [Writer.closeTag, h.pending, h.stack, if_true]
    split
    · exact hpop
    · obtain ⟨before, tag, rfl, hopen, htag⟩ := h.text
      refine ⟨h.blank, rfl, ?_, fun x hx => h.isName x (h.stack ▸ hx), fun hst => ?_⟩
      · simpa [Reply.ok, h.closed, h.stack, Stands, bareNames] using hopen.inside htag (.text .nil)
      · exact absurd hst (by simp [Reply.ok, h.started])

/-- A node starts where the layout wants it. -/
theorem Settled.beforeNode (h : Settled w t) :
    Settled w.beforeNode.writer (t ++ w.beforeNode.text) ∧ w.beforeNode.error = none ∧
      w.beforeNode.writer.started = true ∧ w.beforeNode.writer.rootClosed = w.rootClosed := by
  cases hs : w.stack with
  | nil =>
    have hstands := h.stands
    rw [hs] at hstands
    rw [Writer.beforeNode_of_stack_eq_nil h.pending hs]
    refine ⟨⟨h.blank, h.pending, ?_, h.isName, fun hst => absurd hst (by simp [Reply.ok])⟩, rfl,
      rfl, rfl⟩
    have hmisc : Xml.IsMisc (if w.started then ['\n'] else []) := by
      refine .inl ?_
      split <;> simp [Xml.IsSpaces, isSpace]
    simpa [Reply.ok, hs, bareNames] using hstands.misc hmisc
  | cons e es =>
    rw [Writer.beforeNode_of_stack_eq_cons h.pending hs]
    refine ⟨⟨h.blank, h.pending, ?_, ?_, fun hst => absurd hst (by simp [Reply.ok])⟩, rfl, rfl,
      rfl⟩
    · have hlead : ∀ c ∈ Layout.lead w.indent ((e :: es).map OpenElement.layout),
          isSpace c = true := isSpace_of_mem_lead h.blank
      have hopen := (h.isOpen hs).content (·.append_spaces hlead)
      simpa [Reply.ok, h.not_closed hs, Stands, bareNames] using hopen
    · simpa [Reply.ok, hs] using h.isName

theorem beforeNode (h : Sound w t) :
    Settled w.beforeNode.writer (t ++ w.beforeNode.text) ∧ w.beforeNode.error = none ∧
      w.beforeNode.writer.started = true := by
  have hclose := h.closeTag
  obtain ⟨hsettled, herror, hstarted, -⟩ := hclose.beforeNode
  rw [Writer.beforeNode_eq_andThen hclose.pending,
    Writer.andThen_of_error_eq_none w.closeTag_error, ← List.append_assoc]
  exact ⟨hsettled, herror, hstarted⟩

/-! ### The calls one by one -/

theorem startDocument (h : Sound w t) {version encoding : String}
    (hc : (w.startDocument version encoding).error = none → version = "1.0" ∧ encoding = "utf-8") :
    (w.startDocument version encoding).IsSound t := by
  unfold Writer.startDocument at hc ⊢
  split
  · exact h.refuse _
  next hst =>
  rw [if_neg hst] at hc
  obtain ⟨rfl, rfl⟩ := hc rfl
  rw [Bool.not_eq_true] at hst
  cases h with
  | inTag e es h => exact absurd h.started (by simp [hst])
  | settled h =>
    -- Nothing has been written, so the declaration comes first.
    obtain ⟨rfl, hs, hclosed⟩ := h.fresh hst
    have hopen : Stands w.rootClosed (bareNames w.stack)
        "<?xml version=\"1.0\" encoding=\"utf-8\"?>".toList := by
      rw [hs, hclosed]
      exact .prolog ⟨_, [], (List.append_nil _).symm, .inr Xml.isDeclaration_standard, [], rfl,
        by simp⟩
    exact .settled ⟨h.blank, h.pending, hopen, h.isName, fun hst => absurd hst (by simp [Reply.ok])⟩

theorem openElement (h : Sound w t) (name : Datum) (isEmpty : Bool)
    (hc : (w.openElement name isEmpty).error = none →
      ∀ s, name = .text s → ∀ c ∈ bare s.toList, Xml.isNameChar c = true) :
    (w.openElement name isEmpty).IsSound t := by
  unfold Writer.openElement at hc ⊢
  split
  · next s =>
    split
    · next hname =>
      have hclose := h.closeTag
      refine andThen w.closeTag_error ?_
      split
      · exact refuse (.settled hclose) _
      next hroot =>
      obtain ⟨hnode, herror, hstarted, hclosed⟩ := hclose.beforeNode
      refine andThen herror ?_
      have hxml : Xml.IsName (bare s.toList) := by
        refine isXmlName_bare hname (hc ?_ s rfl)
        dsimp only
        rw [if_pos hname, Writer.andThen_of_error_eq_none w.closeTag_error, if_neg hroot,
          Writer.andThen_of_error_eq_none herror]
        rfl
      -- Outside of other elements this one is the root, which must not be there yet.
      have hopen : w.closeTag.writer.rootClosed = false := by
        cases hs : w.closeTag.writer.stack with
        | nil => simpa [hs] using hroot
        | cons e es => exact hclose.not_closed hs
      have hbefore := hnode.stands
      rw [hclosed, hopen] at hbefore
      obtain ⟨spaces, hspaces, heq⟩ := exists_spaces_of_isName hname
      refine .inTag ⟨s, isEmpty, false, false, []⟩ _ ⟨hnode.blank, rfl, hstarted, rfl, ?_, ?_, ?_⟩
      · exact List.forall_mem_cons.2 ⟨hname, hnode.isName⟩
      · exact hclosed.trans hopen
      · refine ⟨_, '<' :: s.toList, rfl, hbefore, [], spaces, ?_, hxml, .nil, hspaces⟩
        rw [List.nil_append, ← heq]
    · exact h.refuse _
  · exact h.refuse _

theorem addAttribute (h : Sound w t) (name value : Datum)
    (hc : (w.addAttribute name value).error = none →
      ∀ s, name = .text s → ∀ c ∈ s.toList, Xml.isNameChar c = true) :
    (w.addAttribute name value).IsSound t := by
  unfold Writer.addAttribute at hc ⊢
  split
  · next e es hpending hstack =>
    rw [hpending, hstack] at hc
    split
    · next s =>
      split
      · exact h.refuse _
      next hname =>
      split
      · exact h.refuse _
      next hnew =>
      split
      · exact h.refuse _
      next hfind =>
      cases h with
      | settled h => exact absurd h.pending (by simp [hpending])
      | inTag e' es' h =>
        obtain ⟨rfl, rfl⟩ : e' = e ∧ es' = es := by simpa [h.stack] using hstack
        have hchars : ∀ c ∈ s.toList, Xml.isNameChar c = true := by
          refine hc ?_ s rfl
          dsimp only
          rw [if_neg hname, if_neg hnew, hfind]
          rfl
        have hxml := isXmlName_of_isXmlNameChar (by simpa using hname) hchars
        -- The writer compares names as they are, and these are read as they are.
        have hnew : s.toList ∉ e'.attributes.map String.toList := by
          rw [List.mem_map]
          rintro ⟨x, hx, heq⟩
          exact hnew (String.toList_injective heq ▸ hx)
        have hvalue := Xml.isValue_encodeAttribute (Xml.isChars_of_find?_isForbidden hfind)
        obtain ⟨before, tag, rfl, hopen, htag⟩ := h.text
        refine .inTag { e' with attributes := e'.attributes ++ [s] } es'
          ⟨h.blank, h.pending, h.started, ?_, by simpa using h.isName, h.closed, ?_⟩
        · simp [Reply.ok, Writer.mapTop, h.stack]
        · refine ⟨before, _, List.append_assoc .., hopen, ?_⟩
          rw [List.map_append]
          exact htag.append_attribute hxml hnew hvalue
    · exact h.refuse _
  · exact h.refuse _

/-- The end tag of the innermost element is written where the layout wants it. -/
theorem stands_endTag {indent : Option String} (hi : IsBlankIndent indent) {e : OpenElement}
    {es : List OpenElement} (h : IsOpen (bareNames (e :: es)) t)
    (hname : isName e.name.toList = true) :
    Stands es.isEmpty (bareNames es) (t ++ Writer.endTag indent e es.length) := by
  obtain ⟨spaces, hspaces, heq⟩ := exists_spaces_of_isName hname
  have hlead : ∀ c ∈ Layout.endLead indent ((e :: es).map OpenElement.layout),
      isSpace c = true := isSpace_of_mem_endLead hi
  have hclose := (h.content (·.append_spaces hlead)).close hspaces
  rw [Writer.endTag_eq, heq]
  simpa [bareNames] using hclose

theorem stands_endTags {indent : Option String} (hi : IsBlankIndent indent) {closed : Bool}
    {es : List OpenElement} (h : Stands closed (bareNames es) t)
    (hnames : ∀ e ∈ es, isName e.name.toList = true) :
    Stands (closed || !es.isEmpty) [] (t ++ Writer.endTags indent es) := by
  induction es generalizing closed t with
  | nil => simpa [Writer.endTags, bareNames] using h
  | cons e es ih =>
    -- The innermost element ends first, and what it ends in stands for those that are left.
    obtain rfl : closed = false := h.not_closed
    obtain ⟨hname, hnames⟩ := List.forall_mem_cons.1 hnames
    have hrest := ih (stands_endTag hi h hname) hnames
    rw [Writer.endTags, ← List.append_assoc]
    simpa using hrest

theorem endElement (h : Sound w t) : w.endElement.IsSound t := by
  rcases w.endElement_cases with ⟨e, es, hs, hp, he, heq⟩ | heq
  · rw [heq]
    cases h with
    | settled h => exact absurd h.pending (by simp [hp])
    | inTag e es h => exact .settled h.pop
  rw [heq]
  have hclose := h.closeTag
  refine andThen w.closeTag_error ?_
  unfold Writer.closeElement
  split
  · exact refuse (.settled hclose) _
  · next e es hs =>
    refine .settled ⟨hclose.blank, hclose.pending, ?_, ?_, fun hst => ?_⟩
    · have hend := stands_endTag hclose.blank (hclose.isOpen hs) (hclose.isName e (by simp [hs]))
      simpa [Reply.ok, Writer.pop, hs, hclose.not_closed hs, bareNames] using hend
    · exact fun x hx => hclose.isName x (List.mem_of_mem_tail hx)
    · exact absurd hst (by simp [Reply.ok, Writer.pop, hclose.started hs])

theorem endDocument (h : Sound w t) : w.endDocument.IsSound t := by
  have hclose := h.closeTag
  refine andThen w.closeTag_error ?_
  have hend := stands_endTags hclose.blank hclose.stands hclose.isName
  have hmisc : Xml.IsMisc (if w.closeTag.writer.started then ['\n'] else []) := by
    refine .inl ?_
    split <;> simp [Xml.IsSpaces, isSpace]
  refine .settled ⟨hclose.blank, hclose.pending, ?_, by simp [Reply.ok], fun hst => ?_⟩
  · simpa [Reply.ok, bareNames] using hend.misc hmisc
  · obtain ⟨ht, hs, hclosed⟩ := hclose.fresh hst
    have hst : w.closeTag.writer.started = false := hst
    exact ⟨by simp [Reply.ok, ht, hs, hst, Writer.endTags], rfl, by simp [Reply.ok, hs, hclosed]⟩

/-- A text is written in the innermost element. -/
theorem Settled.text (h : Settled w t) {e : OpenElement} {es : List OpenElement}
    (hs : w.stack = e :: es) {x : List Char}
    (hx : ∀ {c}, Xml.IsContent c → Xml.IsContent (c ++ x)) :
    (Reply.ok (w.mapTop fun e => { e with hasText := true }) x).IsSound t := by
  refine .settled ⟨h.blank, h.pending, ?_, ?_, fun hst => ?_⟩
  · have hopen := (h.isOpen hs).content hx
    simpa [Reply.ok, Writer.mapTop, hs, h.not_closed hs, Stands, bareNames] using hopen
  · simpa [Reply.ok, Writer.mapTop, hs] using h.isName
  · exact absurd hst (by simp [Reply.ok, Writer.mapTop, h.started hs])

theorem characters (h : Sound w t) (text : String) : (w.characters text).IsSound t := by
  unfold Writer.characters
  split
  · exact h.nothing
  have hclose := h.closeTag
  refine andThen w.closeTag_error ?_
  split
  · split
    · exact nothing (.settled hclose)
    · exact refuse (.settled hclose) _
  next e es hs =>
  split
  · exact refuse (.settled hclose) _
  · next hfind =>
    exact hclose.text hs (·.append_encodeText (Xml.isChars_of_find?_isForbidden hfind))

theorem cdata (h : Sound w t) (text : String) : (w.cdata text).IsSound t := by
  unfold Writer.cdata
  split
  · exact h.refuse _
  next hfind =>
  have hclose := h.closeTag
  refine andThen w.closeTag_error ?_
  split
  · exact refuse (.settled hclose) _
  · next e es hs =>
    exact hclose.text hs (·.append_cdata (Xml.isChars_of_find?_isForbidden hfind))

/-- A comment or an instruction is written wherever a node may be. -/
theorem aside (h : Sound w t) {x : List Char} (hx : Xml.IsComment x ∨ Xml.IsInstruction x) :
    (w.beforeNode.andThen fun w => .ok w x).IsSound t := by
  obtain ⟨hnode, herror, hstarted⟩ := h.beforeNode
  refine andThen herror (.settled ⟨hnode.blank, hnode.pending, ?_, hnode.isName, fun hst => ?_⟩)
  · have hstands := hnode.stands
    cases hs : w.beforeNode.writer.stack with
    | nil =>
      rw [hs] at hstands
      have hmisc : Xml.IsMisc x := .inr hx
      simpa [Reply.ok, hs, bareNames] using hstands.misc hmisc
    | cons e es =>
      have hitem : Xml.IsItem x := .inr (.inr (hx.imp_right .inl))
      have hopen := (hnode.isOpen hs).content (·.append_item hitem)
      simpa [Reply.ok, hs, hnode.not_closed hs, Stands, bareNames] using hopen
  · exact absurd hst (by simp [Reply.ok, hstarted])

theorem comment (h : Sound w t) (text : String) : (w.comment text).IsSound t := by
  unfold Writer.comment
  split
  · exact h.refuse _
  next hchecked =>
  split
  · exact h.refuse _
  · next hfind =>
    have hchars := Xml.isChars_of_find?_isForbidden hfind
    exact h.aside (.inl (Xml.isComment_of_checked hchars hchecked))

theorem instruction (h : Sound w t) (target : String) (data : Option String)
    (hc : (w.instruction target data).error = none →
      ∀ c ∈ target.toList, Xml.isNameChar c = true) :
    (w.instruction target data).IsSound t := by
  unfold Writer.instruction at hc ⊢
  dsimp only at hc ⊢
  split
  · exact h.refuse _
  next htarget =>
  split
  · exact h.refuse _
  next hdata =>
  split
  · exact h.refuse _
  next hfind =>
  have hchars : ∀ c ∈ target.toList, Xml.isNameChar c = true := by
    refine hc ?_
    rw [if_neg htarget, if_neg hdata, hfind]
    exact (Writer.andThen_of_error_eq_none h.beforeNode.2.1 _).symm ▸ rfl
  refine h.aside (.inr ?_)
  exact Xml.isInstruction_of_checked htarget hchars hdata (Xml.isChars_of_find?_isForbidden hfind)

end Sound

/-! ### Runs of calls -/

/-- The names that a call gives have only the characters that names in documents have, and
    its declaration is the standard one. After the name of an element a line feed does no
    harm. -/
def Call.IsXml : Call → Prop
  | .startDocument version encoding => version = "1.0" ∧ encoding = "utf-8"
  | .startElement (.text s) | .emptyElement (.text s) =>
    ∀ c ∈ bare s.toList, Xml.isNameChar c = true
  | .attribute (.text s) _ => ∀ c ∈ s.toList, Xml.isNameChar c = true
  | .declareNamespace label _ => ∀ c ∈ (namespaceName label).toList, Xml.isNameChar c = true
  | .instruction target _ => ∀ c ∈ target.toList, Xml.isNameChar c = true
  | _ => True

theorem Call.IsXml.mayComeFirst {c : Call} (h : c.IsXml) : c.MayComeFirst := by
  cases c with
  | startDocument version encoding => exact h
  | instruction target data => exact fun hlf => absurd (h _ hlf) (by decide)
  | _ => trivial

/-- A call that starts an element. -/
def Call.StartsElement : Call → Prop
  | .startElement _ | .emptyElement _ => True
  | _ => False

namespace Sound

variable {w : Writer} {t : List Char}

theorem fresh {indent : Option String} (hi : IsBlankIndent indent) : Sound (.fresh indent) [] :=
  .settled {
    blank := hi
    pending := rfl
    stands := .prolog ⟨[], [], rfl, .inl rfl, [], rfl, by simp⟩
    isName := by simp [Writer.fresh]
    fresh := fun _ => ⟨rfl, rfl, rfl⟩ }

/-- Every call keeps what has been written the beginning of a document, if the names that
    are accepted are names there. -/
theorem step (h : Sound w t) {c : Call} (hc : (w.step c).error = none → c.IsXml) :
    (w.step c).IsSound t := by
  cases c with
  | startDocument version encoding => exact h.startDocument hc
  | endDocument => exact h.endDocument
  | startElement name => exact h.openElement name false fun he s hs => by subst hs; exact hc he
  | emptyElement name => exact h.openElement name true fun he s hs => by subst hs; exact hc he
  | endElement => exact h.endElement
  | defaultNamespace uri =>
    refine h.addAttribute "xmlns" uri fun _ s hs => ?_
    obtain rfl : "xmlns" = s := Datum.text.inj hs
    exact List.all_eq_true.1 (by decide)
  | declareNamespace label uri =>
    rw [Writer.step, Writer.declareNamespace_eq] at hc ⊢
    refine h.addAttribute _ uri fun he s hs => ?_
    obtain rfl := Datum.text.inj hs
    exact hc he
  | «attribute» name value =>
    exact h.addAttribute name value fun he s hs => by subst hs; exact hc he
  | characters text => exact h.characters text
  | characterSlice buffer start length => exact h.characters (buffer.sliceText start length)
  | cdata text => exact h.cdata text
  | comment text => exact h.comment text
  | instruction target data => exact h.instruction target data hc
  | flush => exact h.nothing

theorem run (h : Sound w t) {cs : List Call} (hc : ∀ c ∈ w.accepted cs, c.IsXml) :
    Sound (w.after cs) (t ++ w.output cs) := by
  induction cs generalizing w t with
  | nil => simpa using h
  | cons c cs ih =>
    -- A refused call may have closed a start tag, and the names in it may be any.
    have hstep := h.step fun he => hc c (Writer.mem_accepted_cons.2 (.inl ⟨he, rfl⟩))
    have hrest := ih hstep fun x hx => hc x (Writer.mem_accepted_cons.2 (.inr hx))
    rwa [List.append_assoc] at hrest

end Sound

namespace Writer

/-- Some element has been started. -/
def HasRoot (w : Writer) : Prop :=
  w.stack ≠ [] ∨ w.rootClosed = true

theorem isKept_hasRoot : IsKept HasRoot where
  settle := id
  start := id
  pop {w} _ := by
    by_cases hs : w.stack.tail = []
    · exact .inr (by simp [pop, hs])
    · exact .inl hs
  push _ _ := .inl (List.cons_ne_nil _ _)
  mapTop {w} f h := by
    refine h.imp_left fun hs => ?_
    obtain ⟨e, es, hs⟩ := List.exists_cons_of_ne_nil hs
    simp [mapTop, hs]
  clear {w} h := by
    rcases h with hs | hclosed
    · exact .inr (by simp [hs])
    · exact .inr (by simp [hclosed])

theorem hasRoot_andThen {p : Reply} {next : Writer → Reply}
    (hnext : ∀ v, (next v).error = none → (next v).writer.HasRoot)
    (h : (p.andThen next).error = none) : (p.andThen next).writer.HasRoot := by
  cases he : p.error with
  | some e => simp [Reply.andThen, he] at h
  | none =>
    rw [andThen_of_error_eq_none he] at h ⊢
    exact hnext _ h

theorem hasRoot_openElement {w : Writer} (name : Datum) (isEmpty : Bool) :
    (w.openElement name isEmpty).error = none → (w.openElement name isEmpty).writer.HasRoot := by
  unfold openElement
  split
  · split
    · refine hasRoot_andThen fun v => ?_
      split
      · exact nofun
      · exact hasRoot_andThen fun u _ => .inl (List.cons_ne_nil _ _)
    · exact nofun
  · exact nofun

/-- Once a call has been accepted that starts an element, there is one. -/
theorem hasRoot_after {w : Writer} {cs : List Call}
    (h : ∃ c ∈ w.accepted cs, c.StartsElement) : (w.after cs).HasRoot := by
  induction cs generalizing w with
  | nil => simp [accepted] at h
  | cons c cs ih =>
    obtain ⟨x, hx, hstarts⟩ := h
    rcases mem_accepted_cons.1 hx with ⟨he, rfl⟩ | hx
    · refine isKept_hasRoot.after ?_ cs
      cases x with
      | startElement name => exact hasRoot_openElement name false he
      | emptyElement name => exact hasRoot_openElement name true he
      | _ => exact hstarts.elim
    · exact ih ⟨x, hx, hstarts⟩

end Writer

/-- What is written is well-formed, if the names that are accepted are names in documents. It is
    read as what the accepted calls make, so that everything ends where it was meant to. -/
theorem isDocument_output {indent : Option String} (hi : IsBlankIndent indent) {cs : List Call}
    (h : ∀ c ∈ (Writer.fresh indent).accepted cs, c.IsXml)
    (hroot : ∃ c ∈ (Writer.fresh indent).accepted cs, c.StartsElement) :
    Xml.IsDocument ((Writer.fresh indent).output (cs ++ [.endDocument])) ∧
      ∃ s, Sketch.empty.calls indent
          (((Writer.fresh indent).accepted (cs ++ [.endDocument])).map Call.asRead) = some s ∧
        s.draft.stack = [] ∧
        read ((Writer.fresh indent).output (cs ++ [.endDocument])) = s.draft.tree? := by
  obtain ⟨s, hs, -, hnil, hread⟩ := read_output_of_accepted hi fun c hc => (h c hc).mayComeFirst
  refine ⟨?_, s, hs, hnil, hread⟩
  have hend : ∀ c ∈ (Writer.fresh indent).accepted (cs ++ [.endDocument]), c.IsXml := by
    rw [Writer.accepted_append]
    refine List.forall_mem_append.2 ⟨h, fun c hc => ?_⟩
    rw [List.mem_singleton.1 (Writer.accepted_subset hc)]
    trivial
  have hstack : ((Writer.fresh indent).after (cs ++ [.endDocument])).stack = [] := by
    rw [Writer.after_append]
    exact (Writer.endDocument_spec _).2
  have hclosed : ((Writer.fresh indent).after (cs ++ [.endDocument])).rootClosed = true := by
    rw [Writer.after_append]
    refine (Writer.isKept_hasRoot.step (Writer.hasRoot_after hroot) .endDocument).resolve_left ?_
    exact fun hne => hne (Writer.endDocument_spec _).2
  -- Nothing is open any more, and there is a root, so the beginning of a document is a whole one.
  cases (Sound.fresh hi).run hend with
  | inTag e es h => exact absurd (hstack.symm.trans h.stack) (by simp)
  | settled h =>
    have hstands := h.stands
    rw [hclosed] at hstands
    exact hstands.2

theorem isDocument_output_with_refusals :
    let cs : List Call := [.instruction "xml" none, .comment "-", .startDocument "1.0" "utf-8",
      .instruction "XSL" (some "a?"), .startElement "a:b\n", .attribute "x" "<\n\"",
      .attribute "x" "2", .characters "]]", .characters ">\x00", .characters ">", .cdata "]]>",
      .emptyElement "é", .emptyElement "c.d", .comment "a-b"]
    String.ofList ((Writer.fresh none).output (cs ++ [.endDocument])) =
      "<?xml version=\"1.0\" encoding=\"utf-8\"?>\n<?XSL a??>\n<a:b\n x=\"&lt;&#10;&quot;\">]]" ++
      "&gt;<![CDATA[]]]]><![CDATA[>]]><c.d/><!--a-b--></a:b\n>\n" ∧
    Xml.IsDocument ((Writer.fresh none).output (cs ++ [.endDocument])) ∧
    ∃ s, Sketch.empty.calls none
        (((Writer.fresh none).accepted (cs ++ [.endDocument])).map Call.asRead) = some s ∧
      s.draft.stack = [] ∧
      read ((Writer.fresh none).output (cs ++ [.endDocument])) = s.draft.tree? := by
  intro cs
  have hblank : IsBlankIndent none := by simp [IsBlankIndent]
  have h : ∀ c ∈ cs, c.IsXml := by
    simp only [cs, List.forall_mem_cons, Call.IsXml, ← List.all_eq_true, List.not_mem_nil,
      false_implies, implies_true]
    decide
  refine ⟨by decide +kernel, isDocument_output hblank (fun c hc => h c (Writer.accepted_subset hc))
    ⟨.startElement "a:b\n", ?_, trivial⟩⟩
  iterate 4 refine Writer.mem_accepted_cons.2 (.inr ?_)
  exact Writer.mem_accepted_cons.2 (.inl ⟨by decide +kernel, rfl⟩)

/-- An accepted target can be a reserved one with a line feed after it. No document starts with an
    instruction of that target, whatever else is written. -/
theorem not_isDocument_of_reserved_target (indent : Option String) (cs : List Call) :
    ¬ Xml.IsDocument ((Writer.fresh indent).output (.instruction "xml\n" none :: cs)) := by
  have hname : isName ['x', 'm', 'l', '\n'] = true := by decide
  have hlower : "xml\n".toLower ≠ "xml" := by decide +kernel
  have hdata : Text.contains "" "?>" = false := by decide
  have htext : ((Writer.fresh indent).step (.instruction "xml\n" none)).text =
      ['<', '?', 'x', 'm', 'l', '\n', '?', '>'] := by
    simp [Writer.step, Writer.instruction, hname, hlower, hdata, Writer.beforeNode_of_stack_eq_nil,
      Writer.fresh, Reply.andThen, Reply.ok]
  intro h
  rw [Writer.output, htext] at h
  obtain ⟨x, hx, hdeclaration | hinstruction⟩ := h.starts
  · -- After the line feed there would have to be the version.
    obtain ⟨s, hne, hs, rest, heq⟩ := hdeclaration.starts hx
    cases s with
    | nil => exact hne rfl
    | cons c s =>
      cases s with
      | nil => simp at heq
      | cons d s =>
        obtain rfl : d = '?' := by simp at heq; exact heq.2.1
        exact absurd (hs '?' (by simp)) (by decide)
  · have htarget : (['x', 'm', 'l', '\n', '?', '>'] ++
        ((Writer.fresh indent).step (.instruction "xml\n" none)).writer.output cs).takeWhile
          Xml.isNameChar = "xml".toList := rfl
    exact hinstruction.target hx ((congrArg (List.map Char.toLower) htarget).trans (by decide))

theorem not_isDocument_output_of_reserved_target :
    let cs : List Call := [.instruction "xml\n" none, .startElement "a"]
    String.ofList ((Writer.fresh none).output (cs ++ [.endDocument])) = "<?xml\n?>\n<a></a>\n" ∧
      ¬ Xml.IsDocument ((Writer.fresh none).output (cs ++ [.endDocument])) := by
  intro cs
  refine ⟨by decide +kernel, ?_⟩
  exact not_isDocument_of_reserved_target none [.startElement "a", .endDocument]

end InstallerKit.Markup
