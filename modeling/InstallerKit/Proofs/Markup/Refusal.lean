import InstallerKit.Proofs.Markup.Acceptance

/-!
# What a refused call leaves behind

A writer may find out that it has to refuse a call when it has already closed the start tag
that was open. That is all that a refused call can have done. It comes to it where a text has
a forbidden character, which is looked for late, and where the tag that is closed is the whole
of the root element: then there is no element any more that a text, a section or an end could
belong to, and no room for another root. Everything else is checked before anything is done.

* `Writer.RefusesLate`: the refusals of calls that have closed a start tag;
* `Writer.HasTag.after`: a start tag that is open belongs to an open element;
* `Writer.left_of_step_error`: what each refused call leaves behind.
-/

namespace InstallerKit.Markup

/-- The text of a call that writes character data outside of CDATA sections. -/
def Call.plainText? : Call → Option String
  | characters text => some text
  | characterSlice buffer start length => some (buffer.sliceText start length)
  | _ => none

/-- Whatever could be wrong with a call is checked before anything is done. -/
def Call.ChecksFirst : Call → Prop
  | .startDocument .. | .defaultNamespace _ | .declareNamespace .. | .attribute ..
  | .comment _ | .instruction .. => True
  | .startElement name | .emptyElement name => ∀ s : String, name = s → isName s.toList = false
  | .cdata text => ∃ x ∈ text.toList, isForbidden x = true
  | _ => False

theorem Call.not_checksFirst {c : Call} {text : String} (h : c.plainText? = some text) :
    ¬ c.ChecksFirst := by
  cases c with
  | characters => exact id
  | characterSlice => exact id
  | _ => cases h

namespace Writer

/-- The only thing that happens to a writer is that its start tag is closed. -/
inductive ClosesTag (w : Writer) : Writer → List Char → Prop
  | start {e : OpenElement} {es : List OpenElement} (hp : w.pending = true)
    (hs : w.stack = e :: es) (he : e.isEmpty = false) :
    ClosesTag w { w with pending := false } ">".toList
  /-- The element has no content and is closed with its tag. -/
  | empty {e : OpenElement} {es : List OpenElement} (hp : w.pending = true)
    (hs : w.stack = e :: es) (he : e.isEmpty = true) :
    ClosesTag w
      { w with pending := false, stack := es, rootClosed := w.rootClosed || es.isEmpty }
      "/>".toList

/-- The start tag that is open is that of a root element without content. -/
def InEmptyRoot (w : Writer) : Prop :=
  ∃ names, w.InTag true names 0

/-- The refusals of calls for which a start tag has been closed before. -/
inductive RefusesLate (w : Writer) : Call → Error → Prop
  | badText {c : Call} {text : String} {x : Char} (hc : c.plainText? = some text)
    (hx : x ∈ text.toList) (hbad : isForbidden x = true) (hin : 0 < w.level) :
    RefusesLate w c (.badCharacter x .text)
  | looseText {c : Call} {text : String} (hc : c.plainText? = some text) (h : w.InEmptyRoot) :
    RefusesLate w c .looseText
  | looseCdata (text : String) (h : w.InEmptyRoot) : RefusesLate w (.cdata text) .looseCdata
  | secondRoot {c : Call} {name : String} (hc : c = .startElement name ∨ c = .emptyElement name)
    (hname : isName name.toList = true) (h : w.InEmptyRoot) : RefusesLate w c (.secondRoot name)
  | unmatchedEnd (h : w.InEmptyRoot) : RefusesLate w .endElement .unmatchedEnd

/-! ### Open tags -/

/-- A start tag that is open belongs to an open element. -/
def HasTag (w : Writer) : Prop :=
  w.pending = true → w.stack ≠ []

variable {w : Writer}

theorem HasTag.of_not_pending (h : w.pending = false) : w.HasTag := fun hp => by
  rw [h] at hp
  cases hp

theorem stack_mapTop_eq_nil_iff {f : OpenElement → OpenElement} :
    (w.mapTop f).stack = [] ↔ w.stack = [] := by
  unfold mapTop
  cases w.stack <;> simp

theorem HasTag.mapTop (h : w.HasTag) (f : OpenElement → OpenElement) : (w.mapTop f).HasTag :=
  fun hp hnil => h hp (stack_mapTop_eq_nil_iff.1 hnil)

theorem beforeNode_spec (w : Writer) :
    w.beforeNode.writer.pending = false ∧ w.beforeNode.error = none := by
  rw [beforeNode, andThen_of_error_eq_none w.closeTag_error]
  dsimp only
  split <;> exact ⟨w.pending_closeTag, rfl⟩

theorem hasTag_openElement (h : w.HasTag) (name : Datum) (isEmpty : Bool) :
    (w.openElement name isEmpty).writer.HasTag := by
  unfold openElement
  split
  · split
    · rw [andThen_of_error_eq_none w.closeTag_error]
      dsimp only
      split
      · exact .of_not_pending w.pending_closeTag
      · rw [andThen_of_error_eq_none (beforeNode_spec _).2]
        exact fun _ => List.cons_ne_nil _ _
    · exact h
  · exact h

theorem hasTag_addAttribute (h : w.HasTag) (name value : Datum) :
    (w.addAttribute name value).writer.HasTag := by
  unfold addAttribute
  split
  · split
    · split
      · exact h
      split
      · exact h
      split
      · exact h
      · exact h.mapTop _
    · exact h
  · exact h

theorem hasTag_characters (h : w.HasTag) (text : String) : (w.characters text).writer.HasTag := by
  unfold characters
  split
  · exact h
  · rw [andThen_of_error_eq_none w.closeTag_error]
    have hclosed : w.closeTag.writer.HasTag := .of_not_pending w.pending_closeTag
    dsimp only
    split
    · split <;> exact hclosed
    · split
      · exact hclosed
      · exact hclosed.mapTop _

theorem hasTag_step (h : w.HasTag) (c : Call) : (w.step c).writer.HasTag := by
  have hclosed : w.closeTag.writer.HasTag := .of_not_pending w.pending_closeTag
  cases c with
  | startDocument version encoding =>
    rw [step, startDocument]
    split <;> exact h
  | endDocument =>
    rw [step, endDocument, andThen_of_error_eq_none w.closeTag_error]
    exact .of_not_pending w.pending_closeTag
  | startElement name => exact hasTag_openElement h name false
  | emptyElement name => exact hasTag_openElement h name true
  | endElement =>
    rw [step]
    rcases w.endElement_cases with ⟨-, -, -, -, -, heq⟩ | heq
    · rw [heq]
      exact .of_not_pending rfl
    · rw [heq, andThen_of_error_eq_none w.closeTag_error, closeElement]
      split
      · exact hclosed
      · exact .of_not_pending w.pending_closeTag
  | defaultNamespace uri => exact hasTag_addAttribute h _ uri
  | declareNamespace label uri =>
    rw [step, declareNamespace]
    split <;> exact hasTag_addAttribute h _ uri
  | «attribute» name value => exact hasTag_addAttribute h name value
  | characters text => exact hasTag_characters h text
  | characterSlice buffer start length => exact hasTag_characters h _
  | cdata text =>
    rw [step, cdata]
    split
    · exact h
    · rw [andThen_of_error_eq_none w.closeTag_error]
      dsimp only
      split
      · exact hclosed
      · exact hclosed.mapTop _
  | comment text =>
    rw [step, comment]
    split
    · exact h
    split
    · exact h
    · rw [andThen_of_error_eq_none (beforeNode_spec w).2]
      exact .of_not_pending (beforeNode_spec w).1
  | instruction target data =>
    rw [step, instruction]
    split
    · exact h
    split
    · exact h
    split
    · exact h
    · rw [andThen_of_error_eq_none (beforeNode_spec w).2]
      exact .of_not_pending (beforeNode_spec w).1
  | flush => exact h

theorem HasTag.after (h : w.HasTag) (cs : List Call) : (w.after cs).HasTag := by
  induction cs generalizing w with
  | nil => exact h
  | cons c cs ih => exact ih (hasTag_step h c)

/-! ### Refusals -/

/-- If the reply to a call is a refusal, it has done nothing, or has closed the start tag that
    was open. -/
def LeavesNothing (w : Writer) (c : Call) (p : Reply) : Prop :=
  ∀ e, p.error = some e →
    (p.writer = w ∧ p.text = [] ∧ ¬ (w.pending = true ∧ w.RefusesLate c e)) ∨
      (w.ClosesTag p.writer p.text ∧ w.RefusesLate c e)

variable {c : Call}

theorem leavesNothing_ok {p : Reply} (h : p.error = none) : w.LeavesNothing c p := fun e he => by
  rw [h] at he
  cases he

/-- A call that is refused before anything is done. -/
theorem leavesNothing_refuse {e : Error} (hlate : ¬ w.RefusesLate c e) :
    w.LeavesNothing c (.refuse w e) := by
  rintro e ⟨⟩
  exact .inl ⟨rfl, rfl, fun h => hlate h.2⟩

/-- Closing the start tag of a root element without content leaves no element open. -/
theorem HasTag.inEmptyRoot (h : w.HasTag) (hp : w.pending = true)
    (hs : w.closeTag.writer.stack = []) : w.InEmptyRoot := by
  cases hstack : w.stack with
  | nil => exact absurd hstack (h hp)
  | cons e es =>
    rw [closeTag_of_pending hp hstack] at hs
    cases he : e.isEmpty with
    | false => simp [Reply.ok, he] at hs
    | true =>
      simp only [Reply.ok, he, if_true] at hs
      exact ⟨e.attributes, e, es, hp, hstack, he, rfl, by simp [hs]⟩

theorem HasTag.closesTag (h : w.HasTag) (hp : w.pending = true) :
    w.ClosesTag w.closeTag.writer w.closeTag.text := by
  cases hstack : w.stack with
  | nil => exact absurd hstack (h hp)
  | cons e es =>
    rw [closeTag_of_pending hp hstack]
    cases he : e.isEmpty with
    | false => simpa [Reply.ok, he, ← hstack] using ClosesTag.start hp hstack he
    | true => simpa [Reply.ok, he] using ClosesTag.empty hp hstack he

namespace HasTag

variable (h : w.HasTag)
include h

/-- A call that is refused once the start tag has been closed. -/
theorem leavesNothing_closeTag {e : Error} (hlate : w.pending = true → w.RefusesLate c e) :
    w.LeavesNothing c ⟨w.closeTag.writer, w.closeTag.text ++ [], some e⟩ := by
  rintro e ⟨⟩
  rw [List.append_nil]
  cases hp : w.pending with
  | true => exact .inr ⟨h.closesTag hp, hlate hp⟩
  | false =>
    rw [closeTag_of_not_pending hp]
    exact .inl ⟨rfl, rfl, by simp⟩

theorem leavesNothing_openElement {name : Datum} {isEmpty : Bool}
    (hc : c = .startElement name ∨ c = .emptyElement name) :
    w.LeavesNothing c (w.openElement name isEmpty) := by
  unfold openElement
  split
  · split
    · next s hname =>
      rw [andThen_of_error_eq_none w.closeTag_error]
      split
      · -- There is no room for the element once the root has been closed.
        next hroot =>
        have hnil : w.closeTag.writer.stack = [] := by simp_all
        exact h.leavesNothing_closeTag fun hp => .secondRoot hc hname (h.inEmptyRoot hp hnil)
      · exact leavesNothing_ok (by rw [andThen_of_error_eq_none (beforeNode_spec _).2]; rfl)
    · exact leavesNothing_refuse (by rintro ⟨⟩)
  · exact leavesNothing_refuse (by rintro ⟨⟩)

theorem leavesNothing_characters {text : String} (hc : c.plainText? = some text) :
    w.LeavesNothing c (w.characters text) := by
  unfold characters
  split
  · exact leavesNothing_ok rfl
  rw [andThen_of_error_eq_none w.closeTag_error]
  split
  · next hnil =>
    split
    · exact leavesNothing_ok rfl
    · exact h.leavesNothing_closeTag fun hp => .looseText hc (h.inEmptyRoot hp hnil)
  · next hstack =>
    split
    · -- The check comes late, so that the tag is closed already.
      next x hfind =>
      have hlevel : 0 < w.level := by
        rw [level, hstack]
        exact Nat.succ_pos _
      exact h.leavesNothing_closeTag fun _ =>
        .badText hc (List.mem_of_find?_eq_some hfind) (List.find?_some hfind) hlevel
    · exact leavesNothing_ok rfl

theorem leavesNothing_cdata (text : String) : w.LeavesNothing (.cdata text) (w.cdata text) := by
  unfold cdata
  split
  · exact leavesNothing_refuse (by rintro ⟨⟩)
  rw [andThen_of_error_eq_none w.closeTag_error]
  split
  · next hnil =>
    exact h.leavesNothing_closeTag fun hp => .looseCdata text (h.inEmptyRoot hp hnil)
  · exact leavesNothing_ok rfl

theorem leavesNothing_endElement : w.LeavesNothing .endElement w.endElement := by
  rcases w.endElement_cases with ⟨-, -, -, -, -, heq⟩ | heq
  · rw [heq]
    exact leavesNothing_ok rfl
  · rw [heq, andThen_of_error_eq_none w.closeTag_error, closeElement]
    split
    · next hnil => exact h.leavesNothing_closeTag fun hp => .unmatchedEnd (h.inEmptyRoot hp hnil)
    · exact leavesNothing_ok rfl

end HasTag

theorem leavesNothing_addAttribute (name value : Datum) :
    w.LeavesNothing c (w.addAttribute name value) := by
  unfold addAttribute
  split
  · split
    · split
      · exact leavesNothing_refuse (by rintro ⟨⟩)
      split
      · exact leavesNothing_refuse (by rintro ⟨⟩)
      split
      · exact leavesNothing_refuse (by rintro ⟨⟩)
      · exact leavesNothing_ok rfl
    · exact leavesNothing_refuse (by rintro ⟨⟩)
  · exact leavesNothing_refuse (by rintro ⟨⟩)

/-- Once there is room for a node, it is not refused. -/
theorem leavesNothing_node (text : List Char) :
    w.LeavesNothing c (w.beforeNode.andThen fun v => .ok v text) :=
  leavesNothing_ok (by rw [andThen_of_error_eq_none (beforeNode_spec w).2]; rfl)

theorem HasTag.leavesNothing_step (h : w.HasTag) (c : Call) : w.LeavesNothing c (w.step c) := by
  cases c with
  | startDocument version encoding =>
    rw [step, startDocument]
    split
    · exact leavesNothing_refuse (by rintro ⟨⟩)
    · exact leavesNothing_ok rfl
  | endDocument => exact leavesNothing_ok w.endDocument_spec.1
  | startElement name => exact h.leavesNothing_openElement (.inl rfl)
  | emptyElement name => exact h.leavesNothing_openElement (.inr rfl)
  | endElement => exact h.leavesNothing_endElement
  | defaultNamespace uri => exact leavesNothing_addAttribute _ uri
  | declareNamespace label uri =>
    rw [step, declareNamespace]
    split <;> exact leavesNothing_addAttribute _ uri
  | «attribute» name value => exact leavesNothing_addAttribute name value
  | characters text => exact h.leavesNothing_characters rfl
  | characterSlice buffer start length => exact h.leavesNothing_characters rfl
  | cdata text => exact h.leavesNothing_cdata text
  | comment text =>
    rw [step, comment]
    split
    · exact leavesNothing_refuse (by rintro ⟨⟩)
    split
    · exact leavesNothing_refuse (by rintro ⟨⟩)
    · exact leavesNothing_node _
  | instruction target data =>
    rw [step, instruction]
    split
    · exact leavesNothing_refuse (by rintro ⟨⟩)
    split
    · exact leavesNothing_refuse (by rintro ⟨⟩)
    split
    · exact leavesNothing_refuse (by rintro ⟨⟩)
    · exact leavesNothing_node _
  | flush => exact leavesNothing_ok rfl

/-- A section with a forbidden character is refused at once. -/
theorem step_cdata_of_isForbidden {text : String} (h : ∃ x ∈ text.toList, isForbidden x = true) :
    ∃ e, w.step (.cdata text) = .refuse w e := by
  rw [step, cdata]
  split
  · exact ⟨_, rfl⟩
  · next hfind =>
    obtain ⟨x, hx, hbad⟩ := h
    exact absurd hbad (List.find?_eq_none.1 hfind x hx)

/-- A call that checks everything first has done nothing if it is refused. -/
theorem HasTag.step_of_checksFirst (h : w.HasTag) (hc : c.ChecksFirst) {e : Error}
    (he : (w.step c).error = some e) : (w.step c).writer = w ∧ (w.step c).text = [] := by
  rcases h.leavesNothing_step c e he with ⟨hw, ht, -⟩ | ⟨-, hlate⟩
  · exact ⟨hw, ht⟩
  cases hlate with
  | badText hcall => exact absurd hc (Call.not_checksFirst hcall)
  | looseText hcall => exact absurd hc (Call.not_checksFirst hcall)
  | looseCdata text =>
    obtain ⟨e, heq⟩ := step_cdata_of_isForbidden (w := w) hc
    rw [heq]
    exact ⟨rfl, rfl⟩
  | secondRoot hcall hname =>
    rcases hcall with rfl | rfl <;> exact absurd hname (by simp [hc _ rfl])
  | unmatchedEnd => cases hc

/-- After any calls, a call that is refused leaves writer and output as they were, or has closed
    the start tag that was open and done nothing else. The tag is closed exactly by these: a text
    with a forbidden character in an element, and what does not find an element any more once
    the tag of an empty root has been closed, which is a text, a section, another root or an end.
    The other calls, and names and sections that are wrong in themselves, leave nothing behind. -/
theorem left_of_step_error {indent : Option String} {cs : List Call} {c : Call} {e : Error}
    (h : (((fresh indent).after cs).step c).error = some e) :
    let w := (fresh indent).after cs
    let p := w.step c
    ((p.writer = w ∧ p.text = [] ∧ ¬ (w.pending = true ∧ w.RefusesLate c e)) ∨
      (w.ClosesTag p.writer p.text ∧ w.RefusesLate c e)) ∧
    (c.ChecksFirst → p.writer = w ∧ p.text = []) := by
  intro w p
  have htag : w.HasTag := HasTag.after (.of_not_pending rfl) cs
  exact ⟨htag.leavesNothing_step c e h, fun hc => htag.step_of_checksFirst hc h⟩

/-- A text after an empty root comes when the root is closed already. -/
theorem left_of_step_error_after_root :
    let w := (fresh none).after [.emptyElement "a", .attribute "b" "$"]
    (w.step (.characters "x")).error.map Error.message =
        some "Text content written outside of the root element." ∧
      (w.step (.characters "x")).text = "/>".toList ∧
      w.ClosesTag (w.step (.characters "x")).writer (w.step (.characters "x")).text ∧
      w.RefusesLate (.characters "x") .looseText := by
  intro w
  have he : (w.step (.characters "x")).error = some .looseText := rfl
  obtain ⟨⟨-, ht, -⟩ | hleft, -⟩ := left_of_step_error he
  · exact absurd ht (by decide +kernel)
  · exact ⟨by decide +kernel, by decide +kernel, hleft⟩

end Writer

end InstallerKit.Markup
