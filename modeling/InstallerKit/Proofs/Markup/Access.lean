import InstallerKit.Proofs.Markup.Refusal

/-!
# The innermost element

Most of what a writer does, it does to the innermost open element. In some places it asks
first whether there is one. In others it takes it for granted: that an open start tag belongs
to an open element, and that an element which has just been looked at can be taken off the
stack. Here the same calls are answered by a writer that has no answer at all where it looks
for an element that is not there, and that ends the elements one by one when the document
ends. What it takes for granted is true, so that it always has an answer, and a writer that
never fails to have one gives the same.

* `Writer.step?`: the answer to a call, if the innermost element is there whenever it is
  looked for;
* `Writer.HasTag.step?_eq`: there is an answer if an open start tag belongs to an open element;
* `Writer.isAboutMarkup_step`: a writer refuses calls for reasons of markup only.
-/

namespace InstallerKit.Markup

/-- The reply to what comes after a reply, unless that is a refusal. -/
def Reply.andThen? (p : Option Reply) (next : Writer → Option Reply) : Option Reply :=
  p.bind fun p =>
    match p.error with
    | some _ => some p
    | none => (next p.writer).map fun q => p.andThen fun _ => q

/-- Two replies that are there make one. -/
theorem Reply.andThen?_eq {p : Reply} {next? : Writer → Option Reply} (next : Writer → Reply)
    (h : next? p.writer = some (next p.writer)) :
    Reply.andThen? (some p) next? = some (p.andThen next) := by
  rw [Reply.andThen?, Option.bind_some]
  cases he : p.error with
  | some e => simp only [Reply.andThen, he]
  | none => simp only [h, Option.map_some, Reply.andThen, he]

namespace Writer

/-- The innermost element. -/
def top? (w : Writer) : Option OpenElement :=
  w.stack.head?

/-- Takes the innermost element off the stack. -/
def pop? (w : Writer) : Option Writer :=
  w.top?.map fun _ => w.pop

/-- Changes the innermost element. -/
def mapTop? (w : Writer) (f : OpenElement → OpenElement) : Option Writer :=
  w.top?.map fun _ => w.mapTop f

/-- Closes a start tag that is open, which is that of the innermost element. -/
def closeTag? (w : Writer) : Option Reply :=
  if w.pending then do
    let v := { w with pending := false }
    let e ← v.top?
    if e.isEmpty then return .ok (← v.pop?) "/>".toList
    else return .ok v ">".toList
  else return .ok w []

def beforeNode? (w : Writer) : Option Reply :=
  Reply.andThen? w.closeTag? fun w => do
    let v := { w with started := true }
    if w.stack.isEmpty then return .ok v (if w.started then ['\n'] else [])
    else
      let parent ← w.top?
      return .ok (← v.mapTop? fun e => { e with hasChildren := true }) <|
        match w.indent with
        | some indent => if parent.hasText then [] else lineBreak indent w.depth
        | none => []

/-- Ends the innermost element with an end tag. -/
def closeElement? (w : Writer) : Option Reply := do
  if w.stack.isEmpty then return .refuse w .unmatchedEnd
  else
    let e ← w.top?
    return .ok (← w.pop?) (endTag w.indent e (w.depth - 1))

/-- While a start tag is open, it is for the innermost element to say how that is ended. -/
def endElement? (w : Writer) : Option Reply := do
  if w.pending then
    let e ← w.top?
    if e.isEmpty then Reply.andThen? w.closeTag? closeElement?
    else return .ok (← { w with pending := false }.pop?) "/>".toList
  else Reply.andThen? w.closeTag? closeElement?

/-- Ends one element after the other until there is none, in so many rounds at most. -/
def endElements? : (rounds : Nat) → Writer → Option Reply
  | 0, w => if w.stack.isEmpty then some (.ok w []) else none
  | n + 1, w =>
    if w.stack.isEmpty then some (.ok w []) else Reply.andThen? w.endElement? (endElements? n)

/-- Ends the document, in as many rounds as there are open elements. -/
def endDocument? (w : Writer) : Option Reply :=
  Reply.andThen? w.closeTag? fun w =>
    Reply.andThen? (endElements? w.depth w) fun w =>
      some (.ok w (if w.started then ['\n'] else []))

def openElement? (w : Writer) (name : Datum) (isEmpty : Bool) : Option Reply :=
  match name with
  | .text s =>
    if isName s.toList then
      Reply.andThen? w.closeTag? fun w =>
        if w.stack.isEmpty && w.rootClosed then some (.refuse w (.secondRoot s))
        else Reply.andThen? w.beforeNode? fun w =>
          some (.ok { w with stack := ⟨s, isEmpty, false, false, []⟩ :: w.stack, pending := true }
            ('<' :: s.toList))
    else some (.refuse w (.badName .element name))
  | _ => some (.refuse w (.badName .element name))

/-- The names in the start tag are those of the innermost element. -/
def addAttribute? (w : Writer) (name value : Datum) : Option Reply :=
  if w.pending then
    match name with
    | .text s =>
      if !isName s.toList then some (.refuse w (.badName .attribute name))
      else do
        let e ← w.top?
        if s ∈ e.attributes then return .refuse w (.repeatedAttribute s e.name)
        else
          match value.display.toList.find? isForbidden with
          | some c => return .refuse w (.badCharacter c (.attribute s))
          | none =>
            return .ok (← w.mapTop? fun e => { e with attributes := e.attributes ++ [s] }) <|
              ' ' :: s.toList ++ "=\"".toList ++ encodeAttribute value.display.toList ++ ['"']
    | _ => some (.refuse w (.badName .attribute name))
  else some (.refuse w (.looseAttribute name))

def declareNamespace? (w : Writer) (label uri : Datum) : Option Reply :=
  if label.isNothing || label.display = "xmlns" then w.addAttribute? "xmlns" uri
  else w.addAttribute? (.text ("xmlns:" ++ label.display)) uri

def characters? (w : Writer) (text : String) : Option Reply :=
  if text = "" then some (.ok w [])
  else Reply.andThen? w.closeTag? fun w =>
    if w.stack.isEmpty then
      some (if text.toList.all Text.isBlank then .ok w [] else .refuse w .looseText)
    else
      match text.toList.find? isForbidden with
      | some c => some (.refuse w (.badCharacter c .text))
      | none => do
        return .ok (← w.mapTop? fun e => { e with hasText := true }) (encodeText text.toList)

def cdata? (w : Writer) (text : String) : Option Reply :=
  match text.toList.find? isForbidden with
  | some c => some (.refuse w (.badCharacter c .cdata))
  | none => Reply.andThen? w.closeTag? fun w =>
    if w.stack.isEmpty then some (.refuse w .looseCdata)
    else do
      return .ok (← w.mapTop? fun e => { e with hasText := true }) <|
        "<![CDATA[".toList ++ encodeCdata text.toList ++ "]]>".toList

def comment? (w : Writer) (text : String) : Option Reply :=
  if Text.contains text "--" || text.toList.getLast? == some '-' then
    some (.refuse w (.badComment text))
  else
    match text.toList.find? isForbidden with
    | some c => some (.refuse w (.badCharacter c .comment))
    | none => Reply.andThen? w.beforeNode? fun w =>
      some (.ok w ("<!--".toList ++ text.toList ++ "-->".toList))

def instruction? (w : Writer) (target : String) (data : Option String) : Option Reply :=
  let data := data.getD ""
  if !isName target.toList || target.toLower = "xml" then some (.refuse w (.badTarget target))
  else if Text.contains data "?>" then some (.refuse w .badData)
  else
    match data.toList.find? isForbidden with
    | some c => some (.refuse w (.badCharacter c .instruction))
    | none => Reply.andThen? w.beforeNode? fun w =>
      some <| .ok w <| "<?".toList ++ target.toList ++
        (if data = "" then [] else ' ' :: data.toList) ++ "?>".toList

/-- The answer to a call; none where the innermost element is looked for and not there. -/
def step? (w : Writer) : Call → Option Reply
  | .startDocument version encoding => some (w.startDocument version encoding)
  | .endDocument => w.endDocument?
  | .startElement name => w.openElement? name false
  | .emptyElement name => w.openElement? name true
  | .endElement => w.endElement?
  | .defaultNamespace uri => w.addAttribute? "xmlns" uri
  | .declareNamespace label uri => w.declareNamespace? label uri
  | .attribute name value => w.addAttribute? name value
  | .characters text => w.characters? text
  | .characterSlice buffer start length => w.characters? (buffer.sliceText start length)
  | .cdata text => w.cdata? text
  | .comment text => w.comment? text
  | .instruction target data => w.instruction? target data
  | .flush => some (.ok w [])

/-- A start tag that is open without an open element is what everything depends on. -/
example : (⟨none, [], true, true, false⟩ : Writer).step? .endElement = none := rfl

variable {w : Writer}

/-! ### What is looked for is there -/

/-- Ending an element once no start tag is open. -/
theorem closeElement?_eq (w : Writer) : w.closeElement? = some w.closeElement := by
  cases hs : w.stack with
  | nil => simp [closeElement?, closeElement, hs]
  | cons e es => simp [closeElement?, closeElement, top?, pop?, depth, hs]

theorem endElement?_of_not_pending (hp : w.pending = false) :
    w.endElement? = some w.closeElement := by
  rw [endElement?, hp, closeTag?, hp]
  exact (Reply.andThen?_eq closeElement w.closeElement?_eq).trans rfl

/-- As many rounds as there are open elements end all of them. -/
theorem endElements?_eq (hp : w.pending = false) :
    endElements? w.depth w = some (.ok
      { w with stack := [], rootClosed := w.rootClosed || !w.stack.isEmpty }
      (endTags w.indent w.stack)) := by
  obtain ⟨indent, stack, pending, started, rootClosed⟩ := w
  induction stack generalizing rootClosed with
  | nil => simp [endElements?, depth, endTags]
  | cons e es ih =>
    rw [depth, List.length_cons, endElements?, if_neg (by simp), endElement?_of_not_pending hp]
    let clear (v : Writer) : Reply :=
      .ok { v with stack := [], rootClosed := v.rootClosed || !v.stack.isEmpty }
        (endTags v.indent v.stack)
    refine (Reply.andThen?_eq clear (ih (rootClosed || es.isEmpty) hp)).trans ?_
    have hclosed : (rootClosed || es.isEmpty || !es.isEmpty) = true := by cases es <;> simp
    simp [clear, closeElement, Reply.andThen, Reply.ok, pop, endTags, hclosed]

namespace HasTag

variable (h : w.HasTag)
include h

theorem closeTag?_eq : w.closeTag? = some w.closeTag := by
  cases hp : w.pending with
  | false => simp [closeTag?, closeTag, hp]
  | true =>
    obtain ⟨e, es, hs⟩ := List.exists_cons_of_ne_nil (h hp)
    cases he : e.isEmpty <;> simp [closeTag?, closeTag, top?, pop?, hp, hs, he]

/-- Whatever comes after the start tag has been closed finds no tag open. -/
theorem andThen?_closeTag?_eq {next? : Writer → Option Reply} {next : Writer → Reply}
    (hnext : ∀ v : Writer, v.pending = false → next? v = some (next v)) :
    Reply.andThen? w.closeTag? next? = some (w.closeTag.andThen next) := by
  rw [h.closeTag?_eq]
  exact Reply.andThen?_eq next (hnext _ w.pending_closeTag)

theorem beforeNode?_eq : w.beforeNode? = some w.beforeNode := by
  refine h.andThen?_closeTag?_eq fun v _ => ?_
  cases hs : v.stack with
  | nil => simp
  | cons e es =>
    simp only [top?, mapTop?, hs, List.isEmpty_cons, Bool.false_eq_true, if_false]
    rfl

/-- A node is written after there is room for it. -/
theorem andThen?_beforeNode?_eq (next : Writer → Reply) :
    Reply.andThen? w.beforeNode? (fun v => some (next v)) = some (w.beforeNode.andThen next) := by
  rw [h.beforeNode?_eq]
  exact Reply.andThen?_eq next rfl

theorem endElement?_eq : w.endElement? = some w.endElement := by
  cases hp : w.pending with
  | false =>
    rw [endElement?_of_not_pending hp]
    rcases w.endElement_cases with ⟨-, -, -, hpending, -⟩ | heq
    · exact absurd hpending (by simp [hp])
    · rw [heq, closeTag_of_not_pending hp]
      rfl
  | true =>
    obtain ⟨e, es, hs⟩ := List.exists_cons_of_ne_nil (h hp)
    cases he : e.isEmpty with
    | false => simp [endElement?, endElement, top?, pop?, hp, hs, he]
    | true =>
      have hclose : Reply.andThen? w.closeTag? closeElement? =
          some (w.closeTag.andThen closeElement) :=
        h.andThen?_closeTag?_eq fun v _ => v.closeElement?_eq
      have hend : w.endElement = w.closeTag.andThen closeElement := by
        simp only [endElement, hs, hp, he]
        rfl
      simp [endElement?, top?, hp, hs, he, hclose, hend]

theorem endDocument?_eq : w.endDocument? = some w.endDocument := by
  refine h.andThen?_closeTag?_eq fun v hv => ?_
  rw [endElements?_eq hv]
  exact Reply.andThen?_eq (fun v => .ok v (if v.started then ['\n'] else [])) rfl

theorem openElement?_eq (name : Datum) (isEmpty : Bool) :
    w.openElement? name isEmpty = some (w.openElement name isEmpty) := by
  cases name with
  | text s =>
    by_cases hname : isName s.toList = true
    · simp only [openElement?, openElement, hname, if_true]
      refine h.andThen?_closeTag?_eq fun v hv => ?_
      by_cases hroot : (v.stack.isEmpty && v.rootClosed) = true
      · simp only [hroot, if_true]
      · rw [if_neg hroot, if_neg hroot]
        exact (HasTag.of_not_pending hv).andThen?_beforeNode?_eq _
    · simp only [openElement?, openElement, hname]
      rfl
  | _ => rfl

theorem addAttribute?_eq (name value : Datum) :
    w.addAttribute? name value = some (w.addAttribute name value) := by
  cases hp : w.pending with
  | false => simp [addAttribute?, addAttribute, hp]
  | true =>
    obtain ⟨e, es, hs⟩ := List.exists_cons_of_ne_nil (h hp)
    simp only [addAttribute?, addAttribute, top?, mapTop?, hp, hs, if_true]
    cases name with
    | text s =>
      by_cases hname : isName s.toList = true
      · by_cases hnew : s ∈ e.attributes
        · simp [hname, hnew]
        · cases hvalue : value.display.toList.find? isForbidden <;> simp [hname, hnew]
      · simp [hname]
    | _ => rfl

theorem characters?_eq (text : String) : w.characters? text = some (w.characters text) := by
  by_cases ht : text = ""
  · simp only [characters?, characters, ht, if_true]
  · simp only [characters?, characters, ht, if_false]
    refine h.andThen?_closeTag?_eq fun v _ => ?_
    cases hs : v.stack with
    | nil => simp only [List.isEmpty_nil, if_true]
    | cons e es => cases text.toList.find? isForbidden <;> simp [mapTop?, top?, hs]

theorem cdata?_eq (text : String) : w.cdata? text = some (w.cdata text) := by
  unfold cdata? cdata
  cases text.toList.find? isForbidden with
  | some c => rfl
  | none =>
    refine h.andThen?_closeTag?_eq fun v _ => ?_
    cases hs : v.stack <;> simp [mapTop?, top?, hs]

theorem comment?_eq (text : String) : w.comment? text = some (w.comment text) := by
  unfold comment? comment
  by_cases hbad : (Text.contains text "--" || text.toList.getLast? == some '-') = true
  · rw [if_pos hbad, if_pos hbad]
  · rw [if_neg hbad, if_neg hbad]
    cases text.toList.find? isForbidden with
    | some c => rfl
    | none => exact h.andThen?_beforeNode?_eq _

theorem instruction?_eq (target : String) (data : Option String) :
    w.instruction? target data = some (w.instruction target data) := by
  simp only [instruction?, instruction]
  by_cases htarget : (!isName target.toList || decide (target.toLower = "xml")) = true
  · rw [if_pos htarget, if_pos htarget]
  · rw [if_neg htarget, if_neg htarget]
    by_cases hdata : Text.contains (data.getD "") "?>" = true
    · rw [if_pos hdata, if_pos hdata]
    · rw [if_neg hdata, if_neg hdata]
      cases (data.getD "").toList.find? isForbidden with
      | some c => rfl
      | none => exact h.andThen?_beforeNode?_eq _

/-- If an open start tag belongs to an open element, the innermost element is there whenever it
    is looked for. -/
theorem step?_eq (c : Call) : w.step? c = some (w.step c) := by
  cases c with
  | startDocument version encoding => rfl
  | endDocument => exact h.endDocument?_eq
  | startElement name => exact h.openElement?_eq name false
  | emptyElement name => exact h.openElement?_eq name true
  | endElement => exact h.endElement?_eq
  | defaultNamespace uri => exact h.addAttribute?_eq _ uri
  | declareNamespace label uri =>
    rw [step?, declareNamespace?, step, declareNamespace]
    split <;> exact h.addAttribute?_eq _ uri
  | «attribute» name value => exact h.addAttribute?_eq name value
  | characters text => exact h.characters?_eq text
  | characterSlice buffer start length => exact h.characters?_eq _
  | cdata text => exact h.cdata?_eq text
  | comment text => exact h.comment?_eq text
  | instruction target data => exact h.instruction?_eq target data
  | flush => rfl

end HasTag

end Writer

/-! ### Reasons of refusals -/

/-- If a reply is a refusal, it is for a reason of markup. -/
def Reply.IsAboutMarkup (p : Reply) : Prop :=
  ∀ e, p.error = some e → e.isMismatch = false

theorem isAboutMarkup_of_error {p : Reply} (h : p.error = none) : p.IsAboutMarkup := fun e he => by
  rw [h] at he
  cases he

theorem isAboutMarkup_refuse {w : Writer} {e : Error} (h : e.isMismatch = false) :
    (Reply.refuse w e).IsAboutMarkup := by
  rintro e ⟨⟩
  exact h

theorem isAboutMarkup_andThen {p : Reply} {next : Writer → Reply} (hp : p.error = none)
    (h : ∀ v, (next v).IsAboutMarkup) : (p.andThen next).IsAboutMarkup := by
  rw [Writer.andThen_of_error_eq_none hp]
  exact h p.writer

namespace Writer

variable (w : Writer)

theorem isAboutMarkup_openElement (name : Datum) (isEmpty : Bool) :
    (w.openElement name isEmpty).IsAboutMarkup := by
  unfold openElement
  split
  · split
    · refine isAboutMarkup_andThen w.closeTag_error fun v => ?_
      split
      · exact isAboutMarkup_refuse rfl
      · exact isAboutMarkup_andThen v.beforeNode_spec.2 fun _ => isAboutMarkup_of_error rfl
    · exact isAboutMarkup_refuse rfl
  · exact isAboutMarkup_refuse rfl

theorem isAboutMarkup_addAttribute (name value : Datum) :
    (w.addAttribute name value).IsAboutMarkup := by
  unfold addAttribute
  split
  · split
    · split
      · exact isAboutMarkup_refuse rfl
      split
      · exact isAboutMarkup_refuse rfl
      split
      · exact isAboutMarkup_refuse rfl
      · exact isAboutMarkup_of_error rfl
    · exact isAboutMarkup_refuse rfl
  · exact isAboutMarkup_refuse rfl

theorem isAboutMarkup_endElement : w.endElement.IsAboutMarkup := by
  rcases w.endElement_cases with ⟨-, -, -, -, -, heq⟩ | heq
  · rw [heq]
    exact isAboutMarkup_of_error rfl
  · rw [heq]
    refine isAboutMarkup_andThen w.closeTag_error fun v => ?_
    unfold closeElement
    split
    · exact isAboutMarkup_refuse rfl
    · exact isAboutMarkup_of_error rfl

theorem isAboutMarkup_characters (text : String) : (w.characters text).IsAboutMarkup := by
  unfold characters
  split
  · exact isAboutMarkup_of_error rfl
  refine isAboutMarkup_andThen w.closeTag_error fun v => ?_
  split
  · split
    · exact isAboutMarkup_of_error rfl
    · exact isAboutMarkup_refuse rfl
  · split
    · exact isAboutMarkup_refuse rfl
    · exact isAboutMarkup_of_error rfl

/-- What a writer refuses it refuses for a reason of markup, whatever the kinds of the
    arguments are. -/
theorem isAboutMarkup_step (c : Call) : (w.step c).IsAboutMarkup := by
  cases c with
  | startDocument version encoding =>
    rw [step, startDocument]
    split
    · exact isAboutMarkup_refuse rfl
    · exact isAboutMarkup_of_error rfl
  | endDocument => exact isAboutMarkup_of_error w.endDocument_spec.1
  | startElement name => exact w.isAboutMarkup_openElement name false
  | emptyElement name => exact w.isAboutMarkup_openElement name true
  | endElement => exact w.isAboutMarkup_endElement
  | defaultNamespace uri => exact w.isAboutMarkup_addAttribute _ uri
  | declareNamespace label uri =>
    rw [step, declareNamespace]
    split <;> exact w.isAboutMarkup_addAttribute _ uri
  | «attribute» name value => exact w.isAboutMarkup_addAttribute name value
  | characters text => exact w.isAboutMarkup_characters text
  | characterSlice buffer start length => exact w.isAboutMarkup_characters _
  | cdata text =>
    rw [step, cdata]
    split
    · exact isAboutMarkup_refuse rfl
    refine isAboutMarkup_andThen w.closeTag_error fun v => ?_
    split
    · exact isAboutMarkup_refuse rfl
    · exact isAboutMarkup_of_error rfl
  | comment text =>
    rw [step, comment]
    split
    · exact isAboutMarkup_refuse rfl
    split
    · exact isAboutMarkup_refuse rfl
    · exact isAboutMarkup_andThen w.beforeNode_spec.2 fun _ => isAboutMarkup_of_error rfl
  | instruction target data =>
    rw [step, instruction]
    split
    · exact isAboutMarkup_refuse rfl
    split
    · exact isAboutMarkup_refuse rfl
    split
    · exact isAboutMarkup_refuse rfl
    · exact isAboutMarkup_andThen w.beforeNode_spec.2 fun _ => isAboutMarkup_of_error rfl
  | flush => exact isAboutMarkup_of_error rfl

end Writer

end InstallerKit.Markup
