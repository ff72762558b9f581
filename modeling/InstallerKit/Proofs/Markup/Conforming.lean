import InstallerKit.Proofs.Markup.Normalizing
import InstallerKit.Proofs.Markup.ReadBack
import InstallerKit.Proofs.Markup.Refusal

/-!
# What a conforming reader reports

A conforming reader unifies the ends of lines and takes white space in values for spaces before
it looks for anything else. The value of an attribute comes back from it nevertheless, whatever
it is, as white space other than the space is written by its code point there. In character data
a carriage return is written as it is, and comes back as a line feed: the texts and sections in
an element come back with their line ends unified. So a conforming reader reads a whole document
as a reader that does not normalise, unless a text, a section, a comment or the data of an
instruction have a carriage return.

* `reported`: the character data that a reader reports for some texts and sections;
* `Follower.takesReply_step`: normalising makes no difference to what a call writes;
* `readNormal_output`: nor does it to a whole document;
* `reported_of_written`: values, texts and documents.
-/

namespace InstallerKit.Markup

namespace Call

/-- What a call puts between tags as it is, apart from what protects it from being markup. -/
def nodeText : Call → List Char
  | characters text | cdata text | comment text => text.toList
  | characterSlice buffer start length => (buffer.sliceText start length).toList
  | instruction _ data => (data.getD "").toList
  | _ => []

/-- The calls that write character data. -/
def IsText : Call → Prop
  | characters _ | characterSlice .. | cdata _ => True
  | _ => False

end Call

/-- The character data that a conforming reader reports for a text or a section, after a carriage
    return or not. A section does not come right after what has been written before. -/
def Call.reported (afterReturn : Bool) : Call → List Char
  | cdata text => unifyLines false text.toList
  | c => unifyLines afterReturn c.nodeText

/-- Whether what is written next comes after a carriage return. -/
def Call.endsInReturn (afterReturn : Bool) : Call → Bool
  | cdata _ => false
  | c => Markup.endsInReturn afterReturn c.nodeText

/-- The character data that a conforming reader reports for some texts and sections. -/
def reported : (afterReturn : Bool) → List Call → List Char
  | _, [] => []
  | afterReturn, c :: cs => c.reported afterReturn ++ reported (c.endsInReturn afterReturn) cs

theorem Call.not_mem_reported (b : Bool) (c : Call) : '\r' ∉ c.reported b := by
  cases c <;> exact not_mem_unifyLines _ _

theorem not_mem_reported (b : Bool) (cs : List Call) : '\r' ∉ reported b cs := by
  induction cs generalizing b with
  | nil => exact List.not_mem_nil
  | cons c cs ih => exact List.not_mem_append (c.not_mem_reported b) (ih _)

theorem Call.reported_of_not_mem {c : Call} (h : '\r' ∉ c.nodeText) :
    c.reported false = c.nodeText ∧ c.endsInReturn false = false := by
  have hplain : unifyLines false c.nodeText = c.nodeText ∧
      Markup.endsInReturn false c.nodeText = false :=
    ⟨unifyLines_of_not_mem h, endsInReturn_of_not_mem h⟩
  cases c with
  | cdata text => exact ⟨hplain.1, rfl⟩
  | _ => exact hplain

/-- Texts and sections come back as they are if there is no carriage return in them, and only
    then. -/
theorem reported_eq_flatMap_iff {cs : List Call} :
    reported false cs = cs.flatMap Call.nodeText ↔ ∀ c ∈ cs, '\r' ∉ c.nodeText := by
  constructor
  · intro h c hc hmem
    exact not_mem_reported false cs (h ▸ List.mem_flatMap.2 ⟨c, hc, hmem⟩)
  · intro h
    induction cs with
    | nil => rfl
    | cons c cs ih =>
      obtain ⟨hc, hcs⟩ := List.forall_mem_cons.1 h
      obtain ⟨hreported, hend⟩ := Call.reported_of_not_mem hc
      rw [reported, hreported, hend, ih hcs, List.flatMap_cons]

/-! ### Texts and sections in an element -/

namespace Reader

variable {d : Draft} {cs : List Char}

theorem feedNormal_encodeText (hd : d.stack ≠ []) (b : Bool) (cs : List Char) :
    feedNormal ⟨d, .content⟩ (unifyLines b (encodeText cs)) =
      some ⟨d.write (unifyLines b cs), .content⟩ := by
  rw [unifyLines_encodeText, (takesAsIs_encodeText hd (not_mem_unifyLines b cs)).feed,
    feed_encodeText hd]

theorem feedNormal_cdata (hd : d.stack ≠ []) (b : Bool) (cs : List Char) :
    feedNormal ⟨d, .content⟩
        (unifyLines b ("<![CDATA[".toList ++ encodeCdata cs ++ "]]>".toList)) =
      some ⟨d.write (unifyLines false cs), .content⟩ := by
  rw [(unifyLines_section b cs).1, (takesAsIs_cdata hd (not_mem_unifyLines false cs)).feed,
    feed_cdata hd]

end Reader

namespace Writer

open Reader

variable {w : Writer} {cs : List Call}

/-- Some element is open, and no start tag. -/
structure InContent (w : Writer) : Prop where
  pending : w.pending = false
  stack : w.stack ≠ []

theorem inContent_closeTag (h : 0 < w.level) : w.closeTag.writer.InContent :=
  ⟨w.pending_closeTag, fun hs => by rw [level, hs] at h; exact absurd h (by simp)⟩

theorem InContent.mapTop (h : w.InContent) (f : OpenElement → OpenElement) :
    (w.mapTop f).InContent :=
  ⟨h.pending, fun hs => h.stack (stack_mapTop_eq_nil_iff.1 hs)⟩

/-- A text in an element is written as character data. -/
theorem InContent.characters (h : w.InContent) {text : String}
    (he : (w.characters text).error = none) :
    (w.characters text).writer.InContent ∧
      (w.characters text).text = encodeText text.toList := by
  obtain ⟨e, es, hs⟩ := List.exists_cons_of_ne_nil h.stack
  by_cases htext : text = ""
  · subst htext
    exact ⟨h, rfl⟩
  · simp only [Writer.characters, if_neg htext, closeTag_of_not_pending h.pending, Reply.andThen,
      Reply.ok, hs] at he ⊢
    cases hfind : text.toList.find? isForbidden with
    | some x => simp [hfind, Reply.refuse] at he
    | none => exact ⟨h.mapTop _, rfl⟩

/-- A section in an element. -/
theorem InContent.cdata (h : w.InContent) {text : String} (he : (w.cdata text).error = none) :
    (w.cdata text).writer.InContent ∧
      (w.cdata text).text = "<![CDATA[".toList ++ encodeCdata text.toList ++ "]]>".toList := by
  obtain ⟨e, es, hs⟩ := List.exists_cons_of_ne_nil h.stack
  cases hfind : text.toList.find? isForbidden with
  | some x => simp [Writer.cdata, hfind, Reply.refuse] at he
  | none =>
    simp only [Writer.cdata, hfind, closeTag_of_not_pending h.pending, Reply.andThen, Reply.ok, hs]
    exact ⟨h.mapTop _, rfl⟩

/-- A text or a section in an element is reported with its line ends unified. -/
theorem InContent.feedNormal_step (h : w.InContent) {d : Draft} (hd : d.stack ≠ []) (b : Bool)
    {c : Call} (hc : c.IsText) (he : (w.step c).error = none) :
    Reader.feedNormal ⟨d, .content⟩ (unifyLines b (w.step c).text) =
        some ⟨d.write (c.reported b), .content⟩ ∧
      endsInReturn b (w.step c).text = c.endsInReturn b ∧ (w.step c).writer.InContent := by
  have hplain {text : String} (he : (w.characters text).error = none) :
      Reader.feedNormal ⟨d, .content⟩ (unifyLines b (w.characters text).text) =
          some ⟨d.write (unifyLines b text.toList), .content⟩ ∧
        endsInReturn b (w.characters text).text = endsInReturn b text.toList ∧
        (w.characters text).writer.InContent := by
    obtain ⟨hw, htext⟩ := h.characters he
    rw [htext]
    exact ⟨Reader.feedNormal_encodeText hd b _, endsInReturn_encodeText b _, hw⟩
  cases c with
  | characters text => exact hplain he
  | characterSlice buffer start length => exact hplain he
  | cdata text =>
    -- The brackets around a section part it from a carriage return before it or after it.
    obtain ⟨hw, htext⟩ := h.cdata he
    rw [step, htext]
    exact ⟨Reader.feedNormal_cdata hd b _, (unifyLines_section b _).2, hw⟩
  | _ => cases hc

/-- Texts and sections in an element are reported one after the other. -/
theorem InContent.feedNormal_output (h : w.InContent) {d : Draft} (hd : d.stack ≠ []) (b : Bool)
    (hcs : ∀ c ∈ cs, c.IsText) (ht : w.Takes cs) :
    Reader.feedNormal ⟨d, .content⟩ (unifyLines b (w.output cs)) =
        some ⟨d.write (reported b cs), .content⟩ ∧ (w.after cs).InContent := by
  induction cs generalizing w d b with
  | nil => exact ⟨by simp [unifyLines, Reader.feedNormal, reported], h⟩
  | cons c cs ih =>
    obtain ⟨hc, hcs⟩ := List.forall_mem_cons.1 hcs
    obtain ⟨hfeed, hend, hw⟩ := h.feedNormal_step hd b hc ht.1
    obtain ⟨hrest, hafter⟩ := ih hw (d := d.write (c.reported b)) (by simpa using hd)
      (c.endsInReturn b) hcs ht.2
    rw [output, after, unifyLines_append, Reader.feedNormal_append, hfeed, hend, Option.bind_some,
      hrest, Draft.write_write, reported]
    exact ⟨rfl, hafter⟩

/-! ### The start tag before them -/

theorem closeTag_andThen_closeTag (w : Writer) (next : Writer → Reply) :
    (w.closeTag.andThen fun v => v.closeTag.andThen next) = w.closeTag.andThen next := by
  rw [andThen_of_error_eq_none w.closeTag_error, andThen_of_error_eq_none w.closeTag_error,
    closeTag_of_not_pending w.pending_closeTag]
  rfl

/-- A text or a section closes the start tag that is still open, unless it is an empty text. -/
theorem step_eq_andThen {c : Call} (hc : c.IsText) (he : (w.step c).error = none) :
    c.plainText? = some "" ∨ w.step c = w.closeTag.andThen (·.step c) := by
  have hplain {text : String} (htext : text ≠ "") :
      w.characters text = w.closeTag.andThen (·.characters text) := by
    simp only [Writer.characters, if_neg htext, closeTag_andThen_closeTag]
  cases c with
  | characters text =>
    by_cases htext : text = ""
    · exact .inl (congrArg some htext)
    · exact .inr (hplain htext)
  | characterSlice buffer start length =>
    by_cases htext : buffer.sliceText start length = ""
    · exact .inl (congrArg some htext)
    · exact .inr (hplain htext)
  | cdata text =>
    right
    cases hfind : text.toList.find? isForbidden with
    | some x => simp [step, Writer.cdata, hfind, Reply.refuse] at he
    | none => simp only [step, Writer.cdata, hfind, closeTag_andThen_closeTag]
  | _ => cases hc

/-- An empty text is not there at all. -/
theorem step_of_plainText?_eq_empty {c : Call} (h : c.plainText? = some "") (b : Bool) :
    w.step c = .ok w [] ∧ c.reported b = [] ∧ c.endsInReturn b = b := by
  cases c with
  | characters text =>
    obtain rfl : text = "" := Option.some.inj h
    exact ⟨rfl, rfl, rfl⟩
  | characterSlice buffer start length =>
    have htext : buffer.sliceText start length = "" := Option.some.inj h
    simp only [step, Call.reported, Call.endsInReturn, Call.nodeText, htext]
    exact ⟨rfl, rfl, rfl⟩
  | _ => cases h

theorem text_closeTag (w : Writer) :
    w.closeTag.text = [] ∨ w.closeTag.text = ">".toList ∨ w.closeTag.text = "/>".toList := by
  unfold closeTag
  split
  · split
    · exact .inl rfl
    · split
      · exact .inr (.inr rfl)
      · exact .inr (.inl rfl)
  · exact .inl rfl

theorem isEven_closeTag (w : Writer) : IsEven w.closeTag.text := by
  rcases w.text_closeTag with h | h | h <;> rw [h] <;> decide

/-- What a conforming reader reports for texts and sections in an element, the start tag of which
    may be closed by one of them or after them. -/
theorem feedNormal_output_closeTag {r : Reader} {d : Draft} (hl : 0 < w.level)
    (hr : r.feed w.closeTag.text = some ⟨d, .content⟩) (hd : d.stack ≠ [])
    (hcs : ∀ c ∈ cs, c.IsText) (ht : w.Takes cs) :
    r.feedNormal (unifyLines false (w.output cs ++ (w.after cs).closeTag.text)) =
      some ⟨d.write (reported false cs), .content⟩ := by
  have htag : r.TakesAsIs w.closeTag.text := takesAsIs_of_isEven w.isEven_closeTag
  induction cs with
  | nil => simpa [reported] using htag.unified.trans hr
  | cons c cs ih =>
    obtain ⟨hc, hcs'⟩ := List.forall_mem_cons.1 hcs
    rcases step_eq_andThen hc ht.1 with hempty | heq
    · obtain ⟨hstep, hreported, hend⟩ := step_of_plainText?_eq_empty (w := w) hempty false
      have ht' := ht.2
      rw [hstep] at ht'
      rw [output, after, hstep, reported, hreported, hend]
      exact ih hcs' ht'
    · -- From here on no start tag is open.
      rw [andThen_of_error_eq_none w.closeTag_error] at heq
      have ht' : w.closeTag.writer.Takes (c :: cs) := by
        rw [Takes, heq] at ht
        exact ht
      have hcontent := w.inContent_closeTag hl
      obtain ⟨hfeed, hafter⟩ := hcontent.feedNormal_output hd false hcs ht'
      have hsplit : w.output (c :: cs) = w.closeTag.text ++ w.closeTag.writer.output (c :: cs) ∧
          w.after (c :: cs) = w.closeTag.writer.after (c :: cs) := by
        rw [output, output, after, after, heq, List.append_assoc]
        exact ⟨rfl, rfl⟩
      rw [hsplit.1, hsplit.2, closeTag_of_not_pending hafter.pending, Reply.ok, List.append_nil,
        unifyLines_append, endsInReturn_of_not_mem htag.noReturn, Reader.feedNormal_append,
        htag.unified, hr]
      exact hfeed

/-! ### Attributes -/

/-- What is written for an attribute that is accepted. -/
theorem text_addAttribute {name value : Datum} (he : (w.addAttribute name value).error = none) :
    ∃ s, name = .text s ∧ isName s.toList = true ∧
      (w.addAttribute name value).text =
        ' ' :: s.toList ++ "=\"".toList ++ encodeAttribute value.display.toList ++ ['"'] := by
  unfold addAttribute at he ⊢
  split at he
  · split at he
    · next s =>
      split at he
      · cases he
      next hname =>
      split at he
      · cases he
      next hnew =>
      split at he
      · cases he
      simp only [Bool.not_eq_true', Bool.not_eq_false] at hname
      refine ⟨s, rfl, hname, ?_⟩
      simp only [hname, Bool.not_true, Bool.false_eq_true, if_false, hnew]
      rfl
    · cases he
  · cases he

/-- An attribute comes back, whatever its value is. -/
theorem feedNormal_attribute {r : Reader} {t : Tag} (ht : r.mode.tag? = some t)
    {name value : Datum} (he : (w.step (.attribute name value)).error = none) :
    ∃ s, name = .text s ∧
      r.feedNormal (unifyLines false (w.step (.attribute name value)).text) =
        some ⟨r.draft, .afterValue (t.add (bareName s) value.display)⟩ := by
  obtain ⟨s, rfl, hname, htext⟩ := text_addAttribute he
  have hfeed := feed_attribute ht hname value.display.toList
  rw [String.ofList_toList] at hfeed
  refine ⟨s, rfl, ?_⟩
  rw [step, htext, (takesAsIs_attribute (isInValue_of_tag? ht) hname _).unified, hfeed, bareName]

end Writer

/-! ### Whole documents -/

namespace Reader

/-- Normalising makes no difference to what a reader reads of what a call writes, if that is
    accepted. -/
def TakesReply (r : Reader) (p : Reply) : Prop :=
  p.error = none → r.TakesAsIs p.text

variable {r : Reader} {p : Reply}

theorem takesReply_refuse {w : Writer} {e : Error} : r.TakesReply (.refuse w e) := nofun

theorem takesReply_ok {w : Writer} {text : List Char} (h : r.TakesAsIs text) :
    r.TakesReply (.ok w text) := fun _ => h

theorem takesReply_andThen {next : Writer → Reply} (hp : r.TakesAsIs p.text)
    (h : Reads r p fun v _ q => q.TakesReply (next v)) : r.TakesReply (p.andThen next) := by
  obtain ⟨q, hq, hnext⟩ := h
  unfold Reply.andThen
  split
  · next he => exact fun hne => absurd hne (by simp [he])
  · exact fun he => hp.append_of_feed hq (hnext he)

end Reader

/-- White space without carriage returns, in the line breaks of an indent. -/
structure IsPlainIndent (indent : Option String) : Prop where
  blank : IsBlankIndent indent
  noReturn : ∀ i ∈ indent, '\r' ∉ i.toList

namespace Writer

variable {w : Writer} {indent : Option String}

theorem isUnquoted_closeTag (w : Writer) : Reader.IsUnquoted w.closeTag.text := by
  rcases w.text_closeTag with h | h | h <;> rw [h] <;> decide

theorem isUnquoted_lineBreak {i : String} (hi : IsPlainIndent (some i)) (n : Nat) :
    Reader.IsUnquoted (lineBreak i n) := by
  intro c hc
  have hspace := isSpace_of_mem_lineBreak (hi.blank i rfl) c hc
  refine ⟨?_, ?_, ?_⟩
  · rintro rfl
    cases hspace
  · rintro rfl
    cases hspace
  · rintro rfl
    simp only [lineBreak, List.mem_cons, List.mem_flatten, List.mem_replicate] at hc
    rcases hc with hc | ⟨l, ⟨-, rfl⟩, hc⟩
    · exact absurd hc (by decide)
    · exact hi.noReturn i rfl hc

/-- The indent of a writer never changes. -/
theorem isKept_indent (indent : Option String) : IsKept fun w => w.indent = indent where
  settle := id
  start := id
  pop := id
  push _ := id
  mapTop _ := id
  clear := id

theorem isUnquoted_beforeNode (hi : IsPlainIndent w.indent) :
    Reader.IsUnquoted w.beforeNode.text := by
  have hindent : w.closeTag.writer.indent = w.indent := (isKept_indent w.indent).closeTag rfl
  rw [beforeNode, andThen_of_error_eq_none w.closeTag_error]
  refine List.forall_mem_append.2 ⟨w.isUnquoted_closeTag, ?_⟩
  split
  · simp only [Reply.ok]
    split
    · exact (by decide : Reader.IsUnquoted ['\n'])
    · exact Reader.isUnquoted_nil
  · rw [← hindent] at hi
    simp only [Reply.ok]
    split
    · next i heq =>
      rw [heq] at hi
      split
      · exact Reader.isUnquoted_nil
      · exact isUnquoted_lineBreak hi _
    · exact Reader.isUnquoted_nil

theorem isUnquoted_endTag (hi : IsPlainIndent indent) {e : OpenElement}
    (he : isName e.name.toList = true) (n : Nat) : Reader.IsUnquoted (endTag indent e n) := by
  refine List.forall_mem_append.2 ⟨List.forall_mem_append.2 ⟨List.forall_mem_append.2 ⟨?_, ?_⟩,
    Reader.isUnquoted_of_isName he⟩, (by decide : Reader.IsUnquoted ['>'])⟩
  · split
    · split
      · exact isUnquoted_lineBreak hi _
      · exact Reader.isUnquoted_nil
    · exact Reader.isUnquoted_nil
  · exact (by decide : Reader.IsUnquoted "</".toList)

theorem isUnquoted_endTags (hi : IsPlainIndent indent) {es : List OpenElement}
    (h : ∀ e ∈ es, isName e.name.toList = true) : Reader.IsUnquoted (endTags indent es) := by
  induction es with
  | nil => exact Reader.isUnquoted_nil
  | cons e es ih =>
    obtain ⟨he, hes⟩ := List.forall_mem_cons.1 h
    exact List.forall_mem_append.2 ⟨isUnquoted_endTag hi he _, ih hes⟩

end Writer

namespace Follower

open Reader

variable {indent : Option String} {w : Writer} {r : Reader} {s : Sketch}

theorem indent_eq (h : Follower indent w r s) : w.indent = indent := by
  cases h with
  | settled h => exact h.indent
  | inTag e es t h => exact h.indent

theorem isInValue (h : Follower indent w r s) : r.mode.isInValue = false := by
  cases h with
  | settled h => rcases h.mode with hm | hm <;> rw [hm] <;> rfl
  | inTag e es t h => exact isInValue_of_tag? h.tag

theorem hasTag (h : Follower indent w r s) : w.HasTag := by
  cases h with
  | settled h => exact .of_not_pending h.pending
  | inTag e es t h => exact fun _ => by simp [h.stack]

theorem takesAsIs_beforeNode (h : Follower indent w r s) (hi : IsPlainIndent indent) :
    r.TakesAsIs w.beforeNode.text :=
  takesAsIs_of_isUnquoted h.isInValue (Writer.isUnquoted_beforeNode (h.indent_eq ▸ hi))

theorem takesAsIs_closeTag (w : Writer) (r : Reader) : r.TakesAsIs w.closeTag.text :=
  takesAsIs_of_isEven w.isEven_closeTag

theorem takesReply_startDocument {version encoding : String}
    (hc : w.started = true ∨ version = "1.0" ∧ encoding = "utf-8") :
    r.TakesReply (w.startDocument version encoding) := by
  unfold Writer.startDocument
  split
  · exact takesReply_refuse
  · next hst =>
    obtain ⟨rfl, rfl⟩ := hc.resolve_left hst
    exact takesReply_ok (takesAsIs_of_isEven (by decide))

theorem takesReply_endDocument (h : Follower indent w r s) (hi : IsPlainIndent indent) :
    r.TakesReply w.endDocument := by
  refine takesReply_andThen (takesAsIs_closeTag w r) (h.closeTag.mono fun v e q hv => ?_)
  obtain ⟨-, hv, -⟩ := hv
  refine takesReply_ok (takesAsIs_of_isUnquoted (Follower.settled hv).isInValue ?_)
  refine List.forall_mem_append.2
    ⟨Writer.isUnquoted_endTags (hv.indent.symm ▸ hi) hv.isName, ?_⟩
  split
  · exact (by decide : IsUnquoted ['\n'])
  · exact Reader.isUnquoted_nil

theorem takesReply_endElement (h : Follower indent w r s) (hi : IsPlainIndent indent) :
    r.TakesReply w.endElement := by
  rcases w.endElement_cases with ⟨-, -, -, -, -, heq⟩ | heq
  · rw [heq]
    exact takesReply_ok (takesAsIs_of_isEven (by decide))
  rw [heq]
  refine takesReply_andThen (takesAsIs_closeTag w r) (h.closeTag.mono fun v e q hv => ?_)
  obtain ⟨-, hv, -⟩ := hv
  unfold Writer.closeElement
  split
  · exact takesReply_refuse
  · next e es hs =>
    refine takesReply_ok (takesAsIs_of_isUnquoted (Follower.settled hv).isInValue ?_)
    exact Writer.isUnquoted_endTag (hv.indent.symm ▸ hi) (hv.isName e (by simp [hs])) _

theorem takesReply_openElement (h : Follower indent w r s) (hi : IsPlainIndent indent)
    (name : Datum) (isEmpty : Bool) : r.TakesReply (w.openElement name isEmpty) := by
  unfold Writer.openElement
  split
  · split
    · next n hname =>
      refine takesReply_andThen (takesAsIs_closeTag w r) (h.closeTag.mono fun v e q hv => ?_)
      obtain ⟨-, hv, -⟩ := hv
      split
      · exact takesReply_refuse
      refine takesReply_andThen ((Follower.settled hv).takesAsIs_beforeNode hi)
        ((hv.beforeNode hi.blank).mono fun u e q hu => ?_)
      have hmode : q.mode.isInValue = false := by
        rcases hu.2.1.mode with hm | hm <;> rw [hm] <;> rfl
      exact takesReply_ok (takesAsIs_of_isUnquoted hmode
        (List.forall_mem_cons.2 ⟨by decide, isUnquoted_of_isName hname⟩))
    · exact takesReply_refuse
  · exact takesReply_refuse

theorem takesReply_addAttribute (h : Follower indent w r s) (name value : Datum) :
    r.TakesReply (w.addAttribute name value) := fun he => by
  obtain ⟨n, -, hname, htext⟩ := Writer.text_addAttribute he
  rw [htext]
  exact takesAsIs_attribute h.isInValue hname _

/-- A reader in an open element is in its content once no start tag is open. -/
theorem Settled.exists_content (h : Settled indent w r s) {e : OpenElement}
    {es : List OpenElement} (hs : w.stack = e :: es) :
    ∃ d, r = ⟨d, .content⟩ ∧ d.stack ≠ [] := by
  obtain ⟨d, m⟩ := r
  obtain rfl : m = .content := h.started (h.isStarted hs)
  exact ⟨d, rfl, h.stack_ne_nil hs⟩

theorem takesReply_characters (h : Follower indent w r s) {text : String}
    (ht : '\r' ∉ text.toList) : r.TakesReply (w.characters text) := by
  unfold Writer.characters
  split
  · exact takesReply_ok takesAsIs_nil
  refine takesReply_andThen (takesAsIs_closeTag w r) (h.closeTag.mono fun v e q hv => ?_)
  obtain ⟨-, hv, -⟩ := hv
  split
  · split
    · exact takesReply_ok takesAsIs_nil
    · exact takesReply_refuse
  next e es hs =>
  split
  · exact takesReply_refuse
  obtain ⟨d, rfl, hd⟩ := hv.exists_content hs
  exact takesReply_ok (takesAsIs_encodeText hd ht)

theorem takesReply_cdata (h : Follower indent w r s) {text : String}
    (ht : '\r' ∉ text.toList) : r.TakesReply (w.cdata text) := by
  unfold Writer.cdata
  split
  · exact takesReply_refuse
  refine takesReply_andThen (takesAsIs_closeTag w r) (h.closeTag.mono fun v e q hv => ?_)
  obtain ⟨-, hv, -⟩ := hv
  split
  · exact takesReply_refuse
  next e es hs =>
  obtain ⟨d, rfl, hd⟩ := hv.exists_content hs
  exact takesReply_ok (takesAsIs_cdata hd ht)

theorem takesReply_comment (h : Follower indent w r s) (hi : IsPlainIndent indent) {text : String}
    (ht : '\r' ∉ text.toList) : r.TakesReply (w.comment text) := by
  unfold Writer.comment
  split
  · exact takesReply_refuse
  next hbad =>
  split
  · exact takesReply_refuse
  simp only [Bool.or_eq_true, not_or, Bool.not_eq_true] at hbad
  refine takesReply_andThen (h.takesAsIs_beforeNode hi)
    ((h.beforeNode hi.blank).mono fun v e q hv => ?_)
  exact takesReply_ok (takesAsIs_comment hv.2.1.mode ht
    (Text.contains_eq_false_iff.1 hbad.1))

theorem takesReply_instruction (h : Follower indent w r s) (hi : IsPlainIndent indent)
    {target : String} {data : Option String} (ht : '\r' ∉ (data.getD "").toList) :
    r.TakesReply (w.instruction target data) := by
  unfold Writer.instruction
  simp only
  split
  · exact takesReply_refuse
  next htarget =>
  split
  · exact takesReply_refuse
  next hdata =>
  split
  · exact takesReply_refuse
  simp only [Bool.or_eq_true, Bool.not_eq_true', decide_eq_true_eq, not_or, Bool.not_eq_false,
    Bool.not_eq_true] at htarget hdata
  refine takesReply_andThen (h.takesAsIs_beforeNode hi)
    ((h.beforeNode hi.blank).mono fun v e q hv => takesReply_ok ?_)
  rw [List.append_assoc "<?".toList]
  refine takesAsIs_instruction hv.2.1.mode ?_ (not_infix_instruction htarget.1 hdata)
  rw [List.mem_append, not_or]
  refine ⟨fun hmem => (isUnquoted_of_isName htarget.1 _ hmem).2.2 rfl, ?_⟩
  split
  · exact List.not_mem_nil
  · simpa using ht

/-- Normalising makes no difference to what an accepted call writes, unless there is a carriage
    return in what it puts between tags. -/
theorem takesReply_step (h : Follower indent w r s) (hi : IsPlainIndent indent) {c : Call}
    (hc : w.started = true ∨ c.MayComeFirst) (ht : '\r' ∉ c.nodeText) :
    r.TakesReply (w.step c) := by
  cases c with
  | startDocument version encoding => exact takesReply_startDocument hc
  | endDocument => exact h.takesReply_endDocument hi
  | startElement name => exact h.takesReply_openElement hi name false
  | emptyElement name => exact h.takesReply_openElement hi name true
  | endElement => exact h.takesReply_endElement hi
  | defaultNamespace uri => exact h.takesReply_addAttribute "xmlns" uri
  | declareNamespace label uri =>
    rw [Writer.step, Writer.declareNamespace_eq]
    exact h.takesReply_addAttribute _ uri
  | «attribute» name value => exact h.takesReply_addAttribute name value
  | characters text => exact h.takesReply_characters ht
  | characterSlice buffer start length => exact h.takesReply_characters ht
  | cdata text => exact h.takesReply_cdata ht
  | comment text => exact h.takesReply_comment hi ht
  | instruction target data => exact h.takesReply_instruction hi ht
  | flush => exact takesReply_ok takesAsIs_nil

/-- What a refused call has written is the end of a start tag, if anything. -/
theorem takesAsIs_step (h : Follower indent w r s) (hi : IsPlainIndent indent) {c : Call}
    (hc : w.started = true ∨ ((w.step c).error = none → c.MayComeFirst))
    (ht : (w.step c).error = none → '\r' ∉ c.nodeText) : r.TakesAsIs (w.step c).text := by
  cases he : (w.step c).error with
  | none => exact h.takesReply_step hi (hc.imp_right fun hc => hc he) (ht he) he
  | some e =>
    rcases h.hasTag.leavesNothing_step c e he with ⟨-, htext, -⟩ | ⟨hclose, -⟩
    · rw [htext]
      exact takesAsIs_nil
    · generalize (w.step c).writer = v, (w.step c).text = text at hclose
      cases hclose <;> exact takesAsIs_of_isEven (by decide)

/-- Normalising makes no difference to what a run of calls writes. -/
theorem takesAsIs_output (h : Follower indent w r s) (hi : IsPlainIndent indent) {cs : List Call}
    (hc : w.started = true ∨ ∀ c ∈ w.accepted cs, c.MayComeFirst)
    (ht : ∀ c ∈ w.accepted cs, '\r' ∉ c.nodeText) : r.TakesAsIs (w.output cs) := by
  induction cs generalizing w r s with
  | nil => exact takesAsIs_nil
  | cons c cs ih =>
    have hfirst : w.started = true ∨ ((w.step c).error = none → c.MayComeFirst) :=
      hc.imp_right fun hc he => hc c (Writer.mem_accepted_cons.2 (.inl ⟨he, rfl⟩))
    -- Whether the call is refused or not, the reader follows what it has written.
    obtain ⟨q, hq, s', h', -⟩ := h.step_of_accepted hi.blank hfirst
    refine (h.takesAsIs_step hi hfirst fun he =>
      ht c (Writer.mem_accepted_cons.2 (.inl ⟨he, rfl⟩))).append_of_feed hq ?_
    exact ih h' (hc.imp (Writer.started_step · c) fun hc x hx =>
        hc x (Writer.mem_accepted_cons.2 (.inr hx)))
      fun x hx => ht x (Writer.mem_accepted_cons.2 (.inr hx))

end Follower

/-- A conforming reader reads a document as a reader that does not normalise. -/
theorem readNormal_output {indent : Option String} (hi : IsPlainIndent indent) {cs : List Call}
    (h : ∀ c ∈ (Writer.fresh indent).accepted cs, c.MayComeFirst ∧ '\r' ∉ c.nodeText) :
    readNormal ((Writer.fresh indent).output cs) = read ((Writer.fresh indent).output cs) := by
  rw [readNormal, read, ((Follower.fresh indent).takesAsIs_output hi (.inr fun c hc => (h c hc).1)
    fun c hc => (h c hc).2).unified]

/-- A conforming reader reports the value of each attribute as it has been given. It reports the
    texts and sections in an element one after the other with their line ends unified, so as they
    have been given if, and only if, there is no carriage return in them. If there is none in what
    stands between tags, it reads a whole document as what the accepted calls describe. -/
theorem reported_of_written (indent : Option String) (w : Writer) (cs : List Call) :
    (∀ (r : Reader) (t : Tag) (name value : Datum), r.mode.tag? = some t →
      (w.step (.attribute name value)).error = none →
      ∃ s, name = .text s ∧
        r.feedNormal (unifyLines false (w.step (.attribute name value)).text) =
          some ⟨r.draft, .afterValue (t.add (bareName s) value.display)⟩) ∧
    (∀ (r : Reader) (d : Draft), 0 < w.level →
      r.feed w.closeTag.text = some ⟨d, .content⟩ → d.stack ≠ [] →
      (∀ c ∈ cs, c.IsText) → w.Takes cs →
      r.feedNormal (unifyLines false (w.output cs ++ (w.after cs).closeTag.text)) =
          some ⟨d.write (reported false cs), .content⟩ ∧
        (reported false cs = cs.flatMap Call.nodeText ↔ ∀ c ∈ cs, '\r' ∉ c.nodeText)) ∧
    (IsPlainIndent indent →
      (∀ c ∈ (Writer.fresh indent).accepted cs, c.MayComeFirst ∧ '\r' ∉ c.nodeText) →
      ∃ s, Sketch.empty.calls indent
          (((Writer.fresh indent).accepted (cs ++ [.endDocument])).map Call.asRead) = some s ∧
        (indent = none → Draft.empty.calls
          (((Writer.fresh indent).accepted (cs ++ [.endDocument])).map Call.asRead) =
            some s.draft) ∧
        s.draft.stack = [] ∧
        readNormal ((Writer.fresh indent).output (cs ++ [.endDocument])) = s.draft.tree?) := by
  refine ⟨fun r t name value ht he => w.feedNormal_attribute ht he,
    fun r d hl hr hd hcs ht =>
      ⟨w.feedNormal_output_closeTag hl hr hd hcs ht, reported_eq_flatMap_iff⟩,
    fun hi hc => ?_⟩
  obtain ⟨s, hs, hd, hnil, hread⟩ := read_output_of_accepted hi.blank fun c hx => (hc c hx).1
  refine ⟨s, hs, hd, hnil, Eq.trans (readNormal_output hi ?_) hread⟩
  rw [Writer.accepted_append]
  refine List.forall_mem_append.2 ⟨hc, fun c hx => ?_⟩
  rw [List.mem_singleton.1 (Writer.accepted_subset hx)]
  exact ⟨trivial, List.not_mem_nil⟩

theorem reported_of_written_with_returns :
    let w := (Writer.fresh none).after [.startElement "a"]
    let r : Reader := ⟨.empty, .startName ['a']⟩
    let value := "\t\r\n \"<&\r"
    let texts : List Call := [.characters "", .characters "x\r", .characters "\ny", .cdata "\n]]>"]
    let cs : List Call := [.startElement "a", .attribute "v" (.text value), .characters "x\n",
      .emptyElement "b", .comment "\t"]
    (∃ s, Datum.text "v" = .text s ∧
      r.feedNormal (unifyLines false (w.step (.attribute "v" (.text value))).text) =
        some ⟨.empty, .afterValue (Tag.add ⟨"a", []⟩ (bareName s) value)⟩) ∧
    r.feedNormal (unifyLines false (w.output texts ++ (w.after texts).closeTag.text)) =
      some ⟨(Draft.empty.push ⟨"a", []⟩).write "x\ny\n]]>".toList, .content⟩ ∧
    ∃ s, Sketch.empty.calls (some "  ")
        (((Writer.fresh (some "  ")).accepted (cs ++ [.endDocument])).map Call.asRead) = some s ∧
      readNormal ((Writer.fresh (some "  ")).output (cs ++ [.endDocument])) = s.draft.tree? := by
  intro w r value texts cs
  obtain ⟨hvalue, htexts, -⟩ := reported_of_written none w texts
  obtain ⟨-, -, hdocument⟩ := reported_of_written (some "  ") w cs
  have hd : (Draft.empty.push ⟨"a", []⟩).stack ≠ [] := List.cons_ne_nil _ _
  have htaken : w.Takes texts :=
    ⟨by decide +kernel, by decide +kernel, by decide +kernel, by decide +kernel, trivial⟩
  have hindent : IsPlainIndent (some "  ") :=
    ⟨fun i hi => by cases hi; simp [isSpace], fun i hi => by cases hi; decide⟩
  have hcs : ∀ c ∈ cs, c.MayComeFirst ∧ '\r' ∉ c.nodeText := by
    simp [cs, Call.MayComeFirst, Call.nodeText]
  obtain ⟨s, hs, -, -, hread⟩ := hdocument hindent fun c hc =>
    hcs c (Writer.accepted_subset hc)
  exact ⟨hvalue r ⟨"a", []⟩ "v" (.text value) rfl (by decide +kernel),
    (htexts r _ (by decide +kernel) rfl hd (by simp [texts, Call.IsText]) htaken).1,
    s, hs, hread⟩

/-- A carriage return in a text is reported as a line feed, in the value of an attribute it is
    not. -/
theorem readNormal_of_return :
    let cs : List Call := [.startElement "a", .attribute "v" "x\r", .characters "x\r", .endElement,
      .endDocument]
    (Writer.fresh none).Takes cs ∧
    described cs =
      some ⟨none, [], some (⟨"a", [("v", "x\r")]⟩, [.char 'x', .char '\r']), []⟩ ∧
    readNormal ((Writer.fresh none).output cs) =
      some ⟨none, [], some (⟨"a", [("v", "x\r")]⟩, [.char 'x', .char '\n']), []⟩ ∧
    readNormal ((Writer.fresh none).output cs) ≠ described cs := by
  intro cs
  have hdescribed : described cs =
      some ⟨none, [], some (⟨"a", [("v", "x\r")]⟩, [.char 'x', .char '\r']), []⟩ := rfl
  have hread : readNormal ((Writer.fresh none).output cs) =
      some ⟨none, [], some (⟨"a", [("v", "x\r")]⟩, [.char 'x', .char '\n']), []⟩ := by
    rfl
  refine ⟨?_, hdescribed, hread, ?_⟩
  · exact ⟨by decide +kernel, by decide +kernel, by decide +kernel, by decide +kernel,
      by decide +kernel, trivial⟩
  · rw [hdescribed, hread]
    simp

end InstallerKit.Markup
