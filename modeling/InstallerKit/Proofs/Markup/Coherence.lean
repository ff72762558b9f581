import InstallerKit.Proofs.Markup.Access
import InstallerKit.Proofs.Markup.LineBreaks

/-!
# What a writer keeps in mind

A writer never looks back at what it has written. It keeps the open elements with the names in
their start tags, and of everything else only whether a start tag is open, whether anything has
been written, and whether the root element has been closed. What it keeps agrees with the
calls that it has accepted and with the text that it has written, whatever calls are made
and however many of them are refused: `IsCoherent` holds of a fresh writer, every call keeps it,
and so it holds after any calls.

* `HasTags`: the start tags of the open elements, in the calls and in the text;
* `IsCoherent.step`, `IsCoherent.after`: what a call keeps, and what all calls keep;
* `Writer.coherent_after_calls`: what follows for a writer that any calls have been made on.
-/

namespace InstallerKit.Markup

/-- Whether a call opens an element, with content or without. -/
def Call.isOpening : Call → Bool
  | startElement _ | emptyElement _ => true
  | _ => false

/-- The name that a part adds to a start tag. -/
def Part.attributeName? : Part → Option String
  | .attribute name _ => some name
  | _ => none

namespace OpenElement

/-- The call that opens an element. -/
def opening (e : OpenElement) : Call :=
  if e.isEmpty then .emptyElement e.name else .startElement e.name

theorem isOpening_opening (e : OpenElement) : e.opening.isOpening = true := by
  unfold opening
  split <;> rfl

theorem part?_opening (e : OpenElement) : e.opening.part? = some (.start e.name) := by
  unfold opening
  split <;> simp [Call.part?, Datum.display]

/-- Some calls, from the one that opens an element, have written the start tag of it, up to
    where it ends. The names in it are the ones that the element is known to have, and none of
    them is there twice. -/
structure IsTag (e : OpenElement) (calls : List Call) (tag : List Char) : Prop where
  opening : calls.head? = some e.opening
  names : (calls.filterMap Call.part?).filterMap Part.attributeName? = e.attributes
  nodup : e.attributes.Nodup
  text : (calls.filterMap Call.part?).flatMap Part.spell = tag

end OpenElement

/-- Some calls have written a text, and in it the start tags of the open elements, the innermost
    first. If the start tag of the innermost one is still open, it is what comes last. Any other
    is closed, and the element is not one without content. -/
inductive HasTags : (pending : Bool) → List OpenElement → List Call → List Char → Prop
  | outside (made : List Call) (text : List Char) : HasTags false [] made text
  | inTag {e : OpenElement} {es : List OpenElement} {made calls : List Call} {text tag : List Char}
    (h : HasTags false es made text) (htag : e.IsTag calls tag) :
    HasTags true (e :: es) (made ++ calls) (text ++ tag)
  | inside {e : OpenElement} {es : List OpenElement} {made calls : List Call}
    {text tag : List Char} (h : HasTags false es made text) (htag : e.IsTag calls tag)
    (he : e.isEmpty = false) (more : List Call) (content : List Char) :
    HasTags false (e :: es) (made ++ calls ++ more) (text ++ tag ++ '>' :: content)

/-- What a writer keeps agrees with the calls that it has accepted and the text that it has
    written. -/
structure IsCoherent (w : Writer) (made : List Call) (text : List Char) : Prop where
  tags : HasTags w.pending w.stack made text
  started : w.started = true ↔ text ≠ []
  closed : w.rootClosed = true ↔ w.stack = [] ∧ ∃ c ∈ made, c.isOpening = true

/-! ### Start tags -/

namespace OpenElement.IsTag

variable {e : OpenElement} {calls : List Call} {tag : List Char}

theorem opening_mem (h : e.IsTag calls tag) : e.opening ∈ calls :=
  List.mem_of_mem_head? h.opening

/-- The start tag of an element with no attributes so far. -/
theorem start (s : String) (isEmpty : Bool) :
    let e : OpenElement := ⟨s, isEmpty, false, false, []⟩
    e.IsTag [e.opening] ('<' :: s.toList) := by
  cases isEmpty
  all_goals exact ⟨rfl, rfl, .nil, List.append_nil _⟩

/-- A call that adds nothing to the start tag. -/
theorem note (h : e.IsTag calls tag) {c : Call}
    (hc : ∀ p ∈ c.part?, p.attributeName? = none ∧ p.spell = []) :
    e.IsTag (calls ++ [c]) tag := by
  have hhead : (calls ++ [c]).head? = some e.opening := by
    rw [List.head?_append, h.opening]
    rfl
  cases hp : c.part? with
  | none =>
    exact ⟨hhead, by simp [hp, h.names], h.nodup, by simp [hp, h.text]⟩
  | some p =>
    obtain ⟨hname, hspell⟩ := hc p hp
    exact ⟨hhead, by simp [hp, h.names, hname], h.nodup, by simp [hp, h.text, hspell]⟩

/-- A call that adds an attribute to the start tag. -/
theorem addAttribute (h : e.IsTag calls tag) {c : Call} {name : String} {value : List Char}
    (hc : c.part? = some (.attribute name value)) (hnew : name ∉ e.attributes) :
    OpenElement.IsTag { e with attributes := e.attributes ++ [name] } (calls ++ [c])
      (tag ++ (Part.attribute name value).spell) := by
  refine ⟨?_, ?_, List.nodup_append.2 ⟨h.nodup, by simp, ?_⟩, ?_⟩
  · rw [List.head?_append, h.opening]
    rfl
  · simp [hc, h.names, Part.attributeName?]
  · intro a ha b hb heq
    rw [List.mem_singleton] at hb
    exact hnew (hb ▸ heq ▸ ha)
  · simp [hc, h.text]

end OpenElement.IsTag

namespace HasTags

variable {pending : Bool} {e : OpenElement} {es : List OpenElement} {made : List Call}
  {text : List Char}

/-- Later calls and what they write change nothing about start tags that are closed. -/
theorem append (h : HasTags false es made text) (ds : List Call) (cs : List Char) :
    HasTags false es (made ++ ds) (text ++ cs) := by
  cases h with
  | outside => exact .outside _ _
  | inside h htag he more content => simpa using inside h htag he (more ++ ds) (content ++ cs)

theorem append_text (h : HasTags false es made text) (cs : List Char) :
    HasTags false es made (text ++ cs) := by
  simpa using h.append [] cs

theorem exists_isOpening (h : HasTags pending (e :: es) made text) :
    ∃ c ∈ made, c.isOpening = true := by
  cases h with
  | inTag _ htag => exact ⟨e.opening, by simp [htag.opening_mem], e.isOpening_opening⟩
  | inside _ htag => exact ⟨e.opening, by simp [htag.opening_mem], e.isOpening_opening⟩

/-- The name at least has been written. -/
theorem text_ne_nil (h : HasTags pending (e :: es) made text) : text ≠ [] := by
  cases h with
  | inside => simp
  | inTag _ htag =>
    obtain ⟨rest, hcalls⟩ := List.head?_eq_some_iff.1 htag.opening
    have hspell : (Part.start e.name).spell = '<' :: e.name.toList := rfl
    rw [← htag.text, hcalls, List.filterMap_cons, e.part?_opening]
    simp [hspell]

/-- Only the innermost element can be one without content, while its start tag is open. -/
theorem eq_of_isEmpty {above below : List OpenElement} (h : HasTags pending es made text)
    (hes : es = above ++ e :: below) (he : e.isEmpty = true) : above = [] ∧ pending = true := by
  induction h generalizing above with
  | outside => simp at hes
  | inTag h htag ih =>
    cases above with
    | nil => exact ⟨rfl, rfl⟩
    | cons x above => cases (ih (List.cons.inj hes).2).2
  | inside h htag hx more content ih =>
    cases above with
    | nil =>
      obtain ⟨rfl, -⟩ := List.cons.inj hes
      rw [hx] at he
      cases he
    | cons x above => cases (ih (List.cons.inj hes).2).2

/-- An element may get children and text. -/
theorem mapTop (h : HasTags false (e :: es) made text) (hasChildren hasText : Bool) :
    HasTags false ({ e with hasChildren, hasText } :: es) made text := by
  cases h with
  | inside h htag he more content =>
    have htag' : OpenElement.IsTag { e with hasChildren, hasText } _ _ :=
      ⟨htag.opening, htag.names, htag.nodup, htag.text⟩
    exact .inside h htag' he more content

/-- An element has been opened, and its start tag is open. -/
theorem push (h : HasTags false es made text) (s : String) (isEmpty : Bool) :
    let e : OpenElement := ⟨s, isEmpty, false, false, []⟩
    HasTags true (e :: es) (made ++ [e.opening]) (text ++ '<' :: s.toList) :=
  .inTag h (.start s isEmpty)

/-- An element has been closed. -/
theorem pop (h : HasTags false (e :: es) made text) : HasTags false es made text := by
  cases h with
  | inside h htag he more content => simpa using h.append (_ ++ more) (_ ++ '>' :: content)

/-- An element has been closed together with its start tag. -/
theorem popTag (h : HasTags true (e :: es) made text) (cs : List Char) :
    HasTags false es made (text ++ cs) := by
  cases h with
  | inTag h htag => simpa using h.append _ (_ ++ cs)

/-- A start tag has been closed, and the element is open. -/
theorem close (h : HasTags true (e :: es) made text) (he : e.isEmpty = false) :
    HasTags false (e :: es) made (text ++ ">".toList) := by
  cases h with
  | inTag h htag =>
    rw [← List.append_nil (_ ++ _)]
    exact .inside h htag he [] []

theorem note (h : HasTags pending es made text) {c : Call}
    (hc : pending = true → ∀ p ∈ c.part?, p.attributeName? = none ∧ p.spell = []) :
    HasTags pending es (made ++ [c]) text := by
  cases h with
  | inTag h htag => simpa using inTag h (htag.note (hc rfl))
  | outside => exact .outside _ _
  | inside h htag he more content => simpa using inside h htag he (more ++ [c]) content

theorem addAttribute (h : HasTags true (e :: es) made text) {c : Call} {name : String}
    {value : List Char} (hc : c.part? = some (.attribute name value))
    (hnew : name ∉ e.attributes) :
    HasTags true ({ e with attributes := e.attributes ++ [name] } :: es) (made ++ [c])
      (text ++ (Part.attribute name value).spell) := by
  cases h with
  | inTag h htag => simpa using inTag h (htag.addAttribute hc hnew)

end HasTags

/-! ### What a call keeps -/

theorem Writer.mapTop_of_stack_eq_cons {w : Writer} {e : OpenElement} {es : List OpenElement}
    (hs : w.stack = e :: es) (f : OpenElement → OpenElement) :
    w.mapTop f = { w with stack := f e :: es } := by
  rw [mapTop, hs]

/-- A reply to a call adds to the text, and to the calls unless it is a refusal, and leaves a
    writer behind that agrees with both. -/
def Reply.IsCoherent (made : List Call) (text : List Char) (c : Call) (p : Reply) : Prop :=
  Markup.IsCoherent p.writer (made ++ if p.error.isNone then [c] else []) (text ++ p.text)

namespace IsCoherent

variable {w : Writer} {made : List Call} {text : List Char} {c : Call}

/-- A fresh writer has accepted and written nothing. -/
theorem fresh (indent : Option String) : IsCoherent (.fresh indent) [] [] :=
  ⟨.outside [] [], by simp [Writer.fresh], by simp [Writer.fresh]⟩

theorem hasTags (h : IsCoherent w made text) {pending : Bool} {es : List OpenElement}
    (hp : w.pending = pending) (hs : w.stack = es) : HasTags pending es made text := by
  subst hp hs
  exact h.tags

theorem hasTag (h : IsCoherent w made text) : w.HasTag := fun hp hs => by
  cases h.hasTags hp hs

/-- Where an element is open, something has been written, and the root is not closed. -/
theorem of_stack_eq_cons (h : IsCoherent w made text) {e : OpenElement} {es : List OpenElement}
    (hs : w.stack = e :: es) :
    w.started = true ∧ w.rootClosed = false ∧ ∃ c ∈ made, c.isOpening = true := by
  have htags := h.hasTags rfl hs
  refine ⟨h.started.2 htags.text_ne_nil, ?_, htags.exists_isOpening⟩
  rw [← Bool.not_eq_true, h.closed, hs]
  simp

theorem not_pending (h : IsCoherent w made text) (hs : w.stack = []) : w.pending = false := by
  rw [← Bool.not_eq_true]
  exact fun hp => h.hasTag hp hs

/-- A call that opens nothing makes no difference if no start tag is open, and neither does one
    that adds nothing to the tag. -/
theorem note (h : IsCoherent w made text) (hc : c.isOpening = false)
    (hpart : w.pending = true → ∀ p ∈ c.part?, p.attributeName? = none ∧ p.spell = []) :
    IsCoherent w (made ++ [c]) text where
  tags := h.tags.note hpart
  started := h.started
  closed := by simp [h.closed, hc]

/-- What is written while no start tag is open makes no difference once something has been
    written. -/
theorem write (h : IsCoherent w made text) (hp : w.pending = false) (hst : w.started = true)
    (cs : List Char) : IsCoherent w made (text ++ cs) where
  tags := by
    rw [hp]
    exact (h.hasTags hp rfl).append_text cs
  started := by simp [hst, h.started.1 hst]
  closed := h.closed

theorem refuse (h : IsCoherent w made text) (e : Error) :
    (Reply.refuse w e).IsCoherent made text c := by
  simpa [Reply.IsCoherent, Reply.refuse] using h

theorem ok {v : Writer} {cs : List Char} (h : IsCoherent v (made ++ [c]) (text ++ cs)) :
    (Reply.ok v cs).IsCoherent made text c := h

theorem andThen {p : Reply} {next : Writer → Reply} (hp : p.error = none)
    (h : (next p.writer).IsCoherent made (text ++ p.text) c) :
    (p.andThen next).IsCoherent made text c := by
  rw [Reply.IsCoherent, Writer.andThen_of_error_eq_none hp, ← List.append_assoc]
  exact h

/-- Once an element has been closed, the root has if no element is open any more. -/
theorem pop (h : IsCoherent w made text) {e : OpenElement} {es : List OpenElement}
    (hs : w.stack = e :: es) {cs : List Char} (htags : HasTags false es made (text ++ cs)) :
    IsCoherent { w with pending := false }.pop made (text ++ cs) := by
  obtain ⟨hst, hclosed, hopening⟩ := h.of_stack_eq_cons hs
  have hpop : { w with pending := false }.pop =
      { w with pending := false, stack := es, rootClosed := es.isEmpty } := by
    simp [Writer.pop, hs, hclosed]
  rw [hpop]
  exact ⟨htags, by simp [hst, h.started.1 hst], by simp [hopening]⟩

theorem closeTag (h : IsCoherent w made text) :
    IsCoherent w.closeTag.writer made (text ++ w.closeTag.text) := by
  cases hp : w.pending with
  | false =>
    rw [Writer.closeTag_of_not_pending hp]
    simpa [Reply.ok] using h
  | true =>
    obtain ⟨e, es, hs⟩ := List.exists_cons_of_ne_nil (h.hasTag hp)
    obtain ⟨hst, hclosed, -⟩ := h.of_stack_eq_cons hs
    have htags := h.hasTags hp hs
    cases he : e.isEmpty with
    | true =>
      have hpop := h.pop hs (htags.popTag "/>".toList)
      simpa [Writer.closeTag, Reply.ok, hp, hs, he] using hpop
    | false =>
      have hclose : w.closeTag = .ok { w with pending := false } ">".toList := by
        simp [Writer.closeTag, hp, hs, he]
      rw [hclose]
      exact ⟨hs ▸ htags.close he, by simp [Reply.ok, hst], h.closed⟩

/-- Where there is room for a node nothing need have been written yet, but the writer counts on
    the node. -/
theorem beforeNode (h : IsCoherent w made text) (hp : w.pending = false) :
    let v := w.beforeNode.writer
    HasTags false v.stack made (text ++ w.beforeNode.text) ∧ v.pending = false ∧
      v.started = true ∧ v.rootClosed = w.rootClosed ∧ (v.stack = [] ↔ w.stack = []) := by
  cases hs : w.stack with
  | nil =>
    rw [Writer.beforeNode_of_stack_eq_nil hp hs]
    exact ⟨hs ▸ .outside _ _, hp, rfl, rfl, by simp [Reply.ok, hs]⟩
  | cons e es =>
    rw [Writer.beforeNode_of_stack_eq_cons hp hs]
    exact ⟨((h.hasTags hp hs).mapTop true e.hasText).append_text _, hp, rfl, rfl, by simp [Reply.ok]⟩

/-! ### The calls one by one -/

theorem startDocument (h : IsCoherent w made text) (hc : c.isOpening = false)
    (version encoding : String) : (w.startDocument version encoding).IsCoherent made text c := by
  unfold Writer.startDocument
  split
  · exact h.refuse _
  · next hst =>
    have htext : text = [] := by
      rw [← not_not (a := text = [])]
      exact fun hne => hst (h.started.2 hne)
    have hs : w.stack = [] := by
      cases hs : w.stack with
      | nil => rfl
      | cons e es => exact absurd (h.of_stack_eq_cons hs).1 hst
    refine ok (note (w := { w with started := true }) ⟨?_, by simp, h.closed⟩ hc ?_)
    · simp only [h.not_pending hs, hs]
      exact .outside _ _
    · simp [h.not_pending hs]

theorem endDocument (h : IsCoherent w made text) (hc : c.isOpening = false) :
    w.endDocument.IsCoherent made text c := by
  have hclose := h.closeTag
  have hp := w.pending_closeTag
  refine andThen w.closeTag_error (ok ?_)
  generalize w.closeTag.writer = v, text ++ w.closeTag.text = text at hclose hp
  refine note ⟨?_, ?_, ?_⟩ hc (by simp [hp])
  · simp only [hp]
    exact .outside _ _
  · cases hst : v.started with
    | true => simp
    | false =>
      cases hs : v.stack with
      | nil => simpa [hst, Writer.endTags] using hclose.started
      | cons e es => exact absurd (hclose.of_stack_eq_cons hs).1 (by simp [hst])
  · cases hs : v.stack with
    | nil => simpa [hs] using hclose.closed
    | cons e es => simpa using (hclose.of_stack_eq_cons hs).2.2

theorem endElement (h : IsCoherent w made text) (hc : c.isOpening = false) :
    w.endElement.IsCoherent made text c := by
  rcases w.endElement_cases with ⟨e, es, hs, hp, -, heq⟩ | heq
  · rw [heq]
    have htags := (h.hasTags hp hs).popTag "/>".toList
    exact ok ((h.pop hs htags).note hc (by simp [Writer.pop]))
  · have hclose := h.closeTag
    have hp := w.pending_closeTag
    rw [heq]
    refine andThen w.closeTag_error ?_
    generalize w.closeTag.writer = v, text ++ w.closeTag.text = text at hclose hp
    unfold Writer.closeElement
    split
    · exact hclose.refuse _
    · next e es hs =>
      have hv : { v with pending := false } = v := by rw [← hp]
      have htags := (hclose.hasTags hp hs).pop.append_text (Writer.endTag v.indent e es.length)
      have hpop := hclose.pop hs htags
      rw [hv] at hpop
      exact ok (hpop.note hc (by simp [Writer.pop, hp]))

theorem openElement (h : IsCoherent w made text) (name : Datum) (isEmpty : Bool)
    (hc : c = if isEmpty then .emptyElement name else .startElement name) :
    (w.openElement name isEmpty).IsCoherent made text c := by
  unfold Writer.openElement
  split
  · next s =>
    split
    · refine andThen w.closeTag_error ?_
      split
      · exact h.closeTag.refuse _
      · next hroot =>
        have hclose := h.closeTag
        obtain ⟨htags, -, hst, hsame, hnil⟩ := hclose.beforeNode w.pending_closeTag
        refine andThen (Writer.beforeNode_spec _).2 (ok ?_)
        generalize w.closeTag.writer.beforeNode = p at *
        -- A root that is closed leaves nothing open, and this has been checked.
        have hopen : p.writer.rootClosed = false := by
          rw [hsame, ← Bool.not_eq_true]
          exact fun hp => hroot (by simp [(hclose.closed.1 hp).1, hp])
        have hcall : c = OpenElement.opening ⟨s, isEmpty, false, false, []⟩ := hc
        rw [hcall]
        exact ⟨htags.push s isEmpty, by simp [hst], by simp [hopen]⟩
    · exact h.refuse _
  · exact h.refuse _

theorem addAttribute (h : IsCoherent w made text) {name value : Datum}
    (hpart : c.part? = some (.attribute name.display value.display.toList)) :
    (w.addAttribute name value).IsCoherent made text c := by
  unfold Writer.addAttribute
  split
  · next e es hp hs =>
    split
    · next s =>
      split
      · exact h.refuse _
      split
      · exact h.refuse _
      next hnew =>
      split
      · exact h.refuse _
      · obtain ⟨hst, hclosed, -⟩ := h.of_stack_eq_cons hs
        have htags := (h.hasTags hp hs).addAttribute hpart hnew
        rw [Writer.mapTop_of_stack_eq_cons hs]
        exact ok ⟨hp.symm ▸ htags, by simp [hst], by simp [hclosed]⟩
    · exact h.refuse _
  · exact h.refuse _

/-- Once no start tag is open, a text or a section goes to the innermost element. -/
theorem writeText (h : IsCoherent w made text) (hp : w.pending = false) (hs : w.stack ≠ [])
    (hc : c.isOpening = false) (cs : List Char) :
    (Reply.ok (w.mapTop fun e => { e with hasText := true }) cs).IsCoherent made text c := by
  obtain ⟨e, es, hs⟩ := List.exists_cons_of_ne_nil hs
  obtain ⟨hst, hclosed, -⟩ := h.of_stack_eq_cons hs
  have htags := (h.hasTags hp hs).mapTop e.hasChildren true
  have hcoherent : IsCoherent { w with stack := { e with hasText := true } :: es } made text :=
    ⟨hp.symm ▸ htags, h.started, by simp [hclosed]⟩
  rw [Writer.mapTop_of_stack_eq_cons hs]
  exact ok ((hcoherent.write hp hst cs).note hc (by simp [hp]))

theorem characters (h : IsCoherent w made text) {s : String} (hc : c.isOpening = false)
    (hpart : c.part? = some (.characters s.toList)) : (w.characters s).IsCoherent made text c := by
  unfold Writer.characters
  split
  · next hs =>
    have hnothing : ∀ p ∈ c.part?, p.attributeName? = none ∧ p.spell = [] := by
      rintro p hp
      rw [hpart, Option.mem_some_iff] at hp
      subst hp hs
      exact ⟨rfl, rfl⟩
    exact ok (by simpa using h.note hc fun _ => hnothing)
  refine andThen w.closeTag_error ?_
  have hclose := h.closeTag
  have hp := w.pending_closeTag
  split
  · split
    · exact ok (by simpa using hclose.note hc (by simp [hp]))
    · exact hclose.refuse _
  · next hs =>
    split
    · exact hclose.refuse _
    · exact hclose.writeText hp (by simp [hs]) hc _

theorem cdata (h : IsCoherent w made text) (s : String) (hc : c.isOpening = false) :
    (w.cdata s).IsCoherent made text c := by
  unfold Writer.cdata
  split
  · exact h.refuse _
  refine andThen w.closeTag_error ?_
  split
  · exact h.closeTag.refuse _
  · next hs => exact h.closeTag.writeText w.pending_closeTag (by simp [hs]) hc _

/-- A node that is no element. -/
theorem node (h : IsCoherent w made text) (hc : c.isOpening = false) {cs : List Char}
    (hcs : cs ≠ []) : (w.beforeNode.andThen fun v => .ok v cs).IsCoherent made text c := by
  have hclose := h.closeTag
  obtain ⟨htags, hp, hst, hsame, hnil⟩ := hclose.beforeNode w.pending_closeTag
  rw [Writer.beforeNode_eq_andThen w.pending_closeTag, Reply.andThen_assoc]
  refine andThen w.closeTag_error (andThen (Writer.beforeNode_spec _).2 (ok (note ?_ hc ?_)))
  · refine ⟨?_, by simp [hst, hcs], by rw [hsame, hnil, hclose.closed]⟩
    rw [hp]
    exact htags.append_text cs
  · simp [hp]

theorem comment (h : IsCoherent w made text) (s : String) (hc : c.isOpening = false) :
    (w.comment s).IsCoherent made text c := by
  unfold Writer.comment
  split
  · exact h.refuse _
  split
  · exact h.refuse _
  · exact h.node hc (by simp)

theorem instruction (h : IsCoherent w made text) (target : String) (data : Option String)
    (hc : c.isOpening = false) : (w.instruction target data).IsCoherent made text c := by
  unfold Writer.instruction
  simp only
  split
  · exact h.refuse _
  split
  · exact h.refuse _
  split
  · exact h.refuse _
  · exact h.node hc (by simp)

/-- What a writer keeps agrees with what it has accepted and written also after another call. -/
theorem step (h : IsCoherent w made text) (c : Call) : (w.step c).IsCoherent made text c := by
  cases c with
  | startDocument version encoding => exact h.startDocument rfl version encoding
  | endDocument => exact h.endDocument rfl
  | startElement name => exact h.openElement name false rfl
  | emptyElement name => exact h.openElement name true rfl
  | endElement => exact h.endElement rfl
  | defaultNamespace uri => exact h.addAttribute rfl
  | declareNamespace label uri =>
    rw [Writer.step, Writer.declareNamespace_eq]
    exact h.addAttribute rfl
  | «attribute» name value => exact h.addAttribute rfl
  | characters s => exact h.characters rfl rfl
  | characterSlice buffer start length => exact h.characters rfl rfl
  | cdata s => exact h.cdata s rfl
  | comment s => exact h.comment s rfl
  | instruction target data => exact h.instruction target data rfl
  | flush => exact ok (by simpa using h.note rfl (by simp [Call.part?]))

/-- And so it does after any calls. -/
theorem after (h : IsCoherent w made text) (cs : List Call) :
    IsCoherent (w.after cs) (made ++ w.accepted cs) (text ++ w.output cs) := by
  induction cs generalizing w made text with
  | nil => simpa [Writer.accepted] using h
  | cons c cs ih =>
    have hcs := ih (h.step c)
    rw [List.append_assoc, List.append_assoc] at hcs
    have haccepted : w.accepted (c :: cs) =
        (if (w.step c).error.isNone then [c] else []) ++ (w.step c).writer.accepted cs := by
      rw [Writer.accepted]
      split <;> rfl
    rw [haccepted]
    exact hcs

end IsCoherent

/-! ### After any calls -/

namespace Writer

/-- A root that is closed stays so. -/
theorem isKept_rootClosed : IsKept fun w => w.rootClosed = true where
  settle := id
  start := id
  pop h := by simp [pop, h]
  push _ := id
  mapTop _ := id
  clear h := by simp [h]

/-- There is no room for another root. -/
theorem error_of_isOpening {w : Writer} {c : Call} (hp : w.pending = false) (hs : w.stack = [])
    (hroot : w.rootClosed = true) (hc : c.isOpening = true) : (w.step c).error ≠ none := by
  have hopen (name : Datum) (isEmpty : Bool) : (w.openElement name isEmpty).error ≠ none := by
    unfold openElement
    split
    · split
      · simp [closeTag_of_not_pending hp, Reply.andThen, Reply.ok, Reply.refuse, hs, hroot]
      · simp [Reply.refuse]
    · simp [Reply.refuse]
  cases c with
  | startElement name => exact hopen name false
  | emptyElement name => exact hopen name true
  | _ => cases hc

/-- Once the root is closed, no element is opened any more, whatever calls are made. -/
theorem isOpening_of_accepted {w : Writer} {made : List Call} {text : List Char}
    (h : IsCoherent w made text) (hroot : w.rootClosed = true) (cs : List Call) :
    ∀ c ∈ w.accepted cs, c.isOpening = false := by
  induction cs generalizing w made text with
  | nil => simp [accepted]
  | cons c cs ih =>
    intro x hx
    rcases mem_accepted_cons.1 hx with ⟨hok, rfl⟩ | hx
    · have hs := (h.closed.1 hroot).1
      rw [← Bool.not_eq_true]
      exact fun hopening => error_of_isOpening (h.not_pending hs) hs hroot hopening hok
    · exact ih (h.step c) (isKept_rootClosed.step hroot c) x hx

theorem error_startDocument_eq_none_iff {w : Writer} {version encoding : String} :
    (w.step (.startDocument version encoding)).error = none ↔ w.started = false := by
  rw [step, startDocument]
  cases w.started <;> simp [Reply.ok, Reply.refuse]

/-- Whatever calls have been made on a writer, and whichever of them it has refused:

    * the start tags of the open elements have been written, each with exactly the names that
      its element has (`HasTags`);
    * an open start tag belongs to an open element, and an element without content is open only
      as the innermost one, and while its start tag is;
    * the root is closed once an element has been opened and none is open, and from then on no
      element is ever opened;
    * the writer has started if it has written anything, so that a declaration is accepted
      before everything else;
    * no call looks for an innermost element that is not there, and it is refused only for
      reasons of markup; the end of the document is not refused, and leaves nothing open. -/
theorem coherent_after_calls (indent : Option String) (cs : List Call) :
    let w := (fresh indent).after cs
    let made := (fresh indent).accepted cs
    let text := (fresh indent).output cs
    HasTags w.pending w.stack made text ∧
    (w.pending = true → w.stack ≠ []) ∧
    (∀ above e below, w.stack = above ++ e :: below → e.isEmpty = true →
      above = [] ∧ w.pending = true) ∧
    (w.rootClosed = true ↔ w.stack = [] ∧ ∃ c ∈ made, c.isOpening = true) ∧
    (w.rootClosed = true → ∀ ds, (w.after ds).stack = [] ∧
      ∀ c ∈ w.accepted ds, c.isOpening = false) ∧
    (w.started = true ↔ text ≠ []) ∧
    (∀ version encoding, (w.step (.startDocument version encoding)).error = none ↔ text = []) ∧
    (∀ c, w.step? c = some (w.step c) ∧
      ∀ e, (w.step c).error = some e → e.isMismatch = false) ∧
    (w.step .endDocument).error = none ∧ (w.step .endDocument).writer.depth = 0 := by
  intro w made text
  have h : IsCoherent w made text := (IsCoherent.fresh indent).after cs
  refine ⟨h.tags, h.hasTag, fun above e below hs he => h.tags.eq_of_isEmpty hs he, h.closed, ?_,
    h.started, fun version encoding => ?_, fun c => ⟨h.hasTag.step?_eq c, w.isAboutMarkup_step c⟩,
    w.endDocument_spec.1, ?_⟩
  · intro hroot ds
    have hlater := h.after ds
    have hs := (hlater.closed.1 (isKept_rootClosed.after hroot ds)).1
    exact ⟨hs, isOpening_of_accepted h hroot ds⟩
  · rw [error_startDocument_eq_none_iff, ← Bool.not_eq_true, h.started, not_not]
  · exact List.length_eq_zero_iff.2 w.endDocument_spec.2

/-- An empty element is open while attributes are added to it, within another element. -/
example :
    let w := (fresh none).after [.startElement "a", .attribute "x" "1", .emptyElement "b",
      .defaultNamespace "u", .attribute "x" "2", .attribute "x" "3"]
    w.pending = true ∧ w.stack.map (·.attributes) = [["xmlns", "x"], ["x"]] := by
  decide +kernel

end Writer

end InstallerKit.Markup
