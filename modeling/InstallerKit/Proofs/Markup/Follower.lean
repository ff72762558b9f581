import InstallerKit.Proofs.Markup.Layout
import InstallerKit.Proofs.Markup.Reading

/-!
# A reader that follows a writer

While a writer answers calls, a reader can follow: it reads what each call writes, and
its draft stays in step with the sketch that the accepted calls make (`Follower`). The
only difference is a start tag that is still open: the calls have put the element into
the sketch already, and the reader is still in the tag.

* `Follower.step`: reader and sketch stay in step, whether the call is refused or not.
-/

namespace InstallerKit.Markup

/-- A call as a reader takes it: a line feed at the end of a name is white space,
    and a namespace is an attribute. -/
def Call.asRead : Call → Call
  | .startElement (.text name) => .startElement (.text (bareName name))
  | .emptyElement (.text name) => .emptyElement (.text (bareName name))
  | .attribute (.text name) value => .attribute (.text (bareName name)) value
  | .declareNamespace label uri => .attribute (.text (bareName (namespaceName label))) uri
  | .instruction target data =>
    .instruction (bareName target) (some (dataAsRead target (data.getD "")))
  | c => c

/-- A call that may come first: its declaration is the standard one, and its target,
    if it is an instruction, has no line feed. -/
def Call.MayComeFirst : Call → Prop
  | .startDocument version encoding => version = "1.0" ∧ encoding = "utf-8"
  | .instruction target _ => '\n' ∉ target.toList
  | _ => True

/-- Starts an element, or adds one without content. -/
def Draft.begin (d : Draft) (t : Tag) (isEmpty : Bool) : Draft :=
  if isEmpty then d.addElement t [] else d.push t

variable {indent : Option String}

/-- A reader follows a writer with no start tag open, and has just read a line break
    for the next node or not. -/
structure Follower.Ready (indent : Option String) (w : Writer) (r : Reader) (s : Sketch) :
    Prop where
  indent : w.indent = indent
  pending : w.pending = false
  draft : s.draft = r.draft
  layouts : s.layouts = w.stack.map OpenElement.layout
  names : r.draft.names = w.stack.map fun e => bareName e.name
  isName : ∀ e ∈ w.stack, isName e.name.toList = true
  root : r.draft.root.isSome = w.rootClosed
  closed : w.rootClosed = true → w.stack = []
  mode : r.mode = .content ∨ r.mode = .start

/-- A reader follows a writer with no start tag open. -/
structure Follower.Settled (indent : Option String) (w : Writer) (r : Reader) (s : Sketch) : Prop
    extends Follower.Ready indent w r s where
  started : w.started = true → r.mode = .content
  fresh : w.started = false → r = .fresh

/-- A reader follows a writer with a start tag open. -/
structure Follower.InTag (indent : Option String) (w : Writer) (r : Reader) (s : Sketch)
    (e : OpenElement) (es : List OpenElement) (t : Tag) : Prop where
  indent : w.indent = indent
  pending : w.pending = true
  started : w.started = true
  stack : w.stack = e :: es
  tag : r.mode.tag? = some t
  name : t.name = bareName e.name
  draft : s.draft = r.draft.begin t e.isEmpty
  layouts : s.layouts = (if e.isEmpty then es else e :: es).map OpenElement.layout
  bare : e.layout = ⟨false, false⟩
  names : r.draft.names = es.map fun e => bareName e.name
  isName : ∀ x ∈ e :: es, isName x.name.toList = true
  root : r.draft.root = none
  closed : w.rootClosed = false

/-- A reader that has read what a writer has written is in step with a sketch. -/
inductive Follower (indent : Option String) (w : Writer) (r : Reader) (s : Sketch) : Prop
  | settled (h : Follower.Settled indent w r s)
  | inTag (e : OpenElement) (es : List OpenElement) (t : Tag)
      (h : Follower.InTag indent w r s e es t)

/-- The reader takes the text of a reply, and what comes of it has a property. -/
def Reads (r : Reader) (p : Reply) (Q : Writer → Option Error → Reader → Prop) : Prop :=
  ∃ r', r.feed p.text = some r' ∧ Q p.writer p.error r'

theorem Reads.ok {r r' : Reader} {w : Writer} {text : List Char}
    {Q : Writer → Option Error → Reader → Prop} (h : r.feed text = some r') (hQ : Q w none r') :
    Reads r (.ok w text) Q := ⟨r', h, hQ⟩

theorem Reads.refuse {r : Reader} {w : Writer} {e : Error}
    {Q : Writer → Option Error → Reader → Prop} (hQ : Q w (some e) r) :
    Reads r (.refuse w e) Q := ⟨r, rfl, hQ⟩

theorem Reads.andThen {r : Reader} {p : Reply} {next : Writer → Reply}
    {Q : Writer → Option Error → Reader → Prop}
    (h : Reads r p fun w e r' => e = none ∧ Reads r' (next w) Q) : Reads r (p.andThen next) Q := by
  obtain ⟨r', hr, he, r'', hr', hQ⟩ := h
  rw [Reply.andThen, he]
  exact ⟨r'', (Reader.feed_of_append hr).trans hr', hQ⟩

theorem Reads.mono {r : Reader} {p : Reply} {Q Q' : Writer → Option Error → Reader → Prop}
    (h : Reads r p Q) (hQ : ∀ w e r', Q w e r' → Q' w e r') : Reads r p Q' :=
  let ⟨r', hr, h⟩ := h
  ⟨r', hr, hQ _ _ _ h⟩

/-- White space only, in the line breaks of an indent. -/
def IsBlankIndent (indent : Option String) : Prop :=
  ∀ i ∈ indent, ∀ c ∈ i.toList, isSpace c = true

theorem isSpace_of_mem_lineBreak {i : String} (hi : ∀ c ∈ i.toList, isSpace c = true) {n : Nat} :
    ∀ c ∈ Writer.lineBreak i n, isSpace c = true := by
  intro c hc
  simp only [Writer.lineBreak, List.mem_cons, List.mem_flatten, List.mem_replicate] at hc
  rcases hc with rfl | ⟨l, ⟨-, rfl⟩, hc⟩
  · rfl
  · exact hi c hc

theorem isSpace_of_mem_lead (hi : IsBlankIndent indent) {ls : List Layout} :
    ∀ c ∈ Layout.lead indent ls, isSpace c = true := by
  unfold Layout.lead
  split
  · simp
  split
  · split
    · simp
    · exact isSpace_of_mem_lineBreak (hi _ rfl)
  · simp

theorem isSpace_of_mem_endLead (hi : IsBlankIndent indent) {ls : List Layout} :
    ∀ c ∈ Layout.endLead indent ls, isSpace c = true := by
  unfold Layout.endLead
  split
  · simp
  split
  · split
    · exact isSpace_of_mem_lineBreak (hi _ rfl)
    · simp
  · simp

/-- An end tag with the line break before it is read as ending the innermost open element. -/
theorem feed_endTag (hi : IsBlankIndent indent) {d : Draft} {e : OpenElement}
    {es : List OpenElement} (hn : d.names = (e :: es).map fun e => bareName e.name)
    (hv : isName e.name.toList = true) :
    Reader.feed ⟨d, .content⟩ (Writer.endTag indent e es.length) =
      some ⟨(d.write (Layout.endLead indent ((e :: es).map OpenElement.layout))).finish,
        .content⟩ := by
  rw [Writer.endTag_eq, Reader.feed_of_append (Reader.feed_space (isSpace_of_mem_endLead hi))]
  exact Reader.feed_endTag hv (by rw [Draft.names_write, hn]; rfl)

/-- The end tags of all open elements are read as ending them. -/
theorem feed_endTags (hi : IsBlankIndent indent) (es : List OpenElement) {d : Draft}
    (hn : d.names = es.map fun e => bareName e.name) (hv : ∀ e ∈ es, isName e.name.toList = true) :
    Reader.feed ⟨d, .content⟩ (Writer.endTags indent es) =
      some ⟨Sketch.closeAll indent (es.map OpenElement.layout) d, .content⟩ := by
  induction es generalizing d with
  | nil => rfl
  | cons e es ih =>
    rw [Writer.endTags, Reader.feed_of_append (feed_endTag hi hn (hv e (by simp)))]
    rw [ih (by simp [hn]) fun x hx => hv x (by simp [hx])]
    rfl

namespace Follower

variable {w : Writer} {r : Reader} {s : Sketch}

theorem Ready.stack_eq_nil_iff (h : Ready indent w r s) : r.draft.stack = [] ↔ w.stack = [] := by
  rw [Draft.stack_eq_nil_iff_names, h.names, List.map_eq_nil_iff]

theorem Ready.stack_ne_nil (h : Ready indent w r s) {e : OpenElement} {es : List OpenElement}
    (hs : w.stack = e :: es) : r.draft.stack ≠ [] := by
  rw [ne_eq, h.stack_eq_nil_iff, hs]
  simp

theorem InTag.stack_eq_nil_iff {e : OpenElement} {es : List OpenElement} {t : Tag}
    (h : InTag indent w r s e es t) : r.draft.stack = [] ↔ es = [] := by
  rw [Draft.stack_eq_nil_iff_names, h.names, List.map_eq_nil_iff]

/-- An empty element, or an element that is open, takes the place of the start tag. -/
theorem InTag.begin {e : OpenElement} {es : List OpenElement} {t : Tag}
    (h : InTag indent w r s e es t) (isEmpty : Bool) :
    r.feed (if isEmpty then "/>".toList else ">".toList) =
      some ⟨r.draft.begin t isEmpty, .content⟩ := by
  have hroom : r.draft.hasRoom = true := by simp [Draft.hasRoom, h.root]
  rw [Reader.feed_startTag_end h.tag, Reader.open?, if_pos hroom]
  rfl

/-- Closing the start tag brings the reader's draft in line with the sketch. -/
theorem closeTag (h : Follower indent w r s) :
    Reads r w.closeTag fun w' e r' =>
      e = none ∧ Settled indent w' r' s ∧ w'.started = w.started := by
  cases h with
  | settled h =>
    rw [Writer.closeTag_of_not_pending h.pending]
    exact .ok rfl ⟨rfl, h, rfl⟩
  | inTag e es t h =>
    rw [Writer.closeTag_of_pending h.pending h.stack]
    refine .ok (h.begin e.isEmpty) ⟨rfl, ?_, rfl⟩
    exact {
      indent := h.indent
      pending := rfl
      draft := h.draft
      layouts := h.layouts
      names := by cases he : e.isEmpty <;> simp [Draft.begin, h.names, h.name]
      isName x hx := h.isName x (by cases he : e.isEmpty <;> simp_all)
      root := by
        cases he : e.isEmpty
        · simp [Draft.begin, h.root, h.closed]
        · by_cases hes : es = [] <;>
            simp [Draft.begin, Draft.root_addElement, h.stack_eq_nil_iff, hes, h.root, h.closed]
      closed := by cases he : e.isEmpty <;> simp [h.closed]
      mode := .inl rfl
      started := fun _ => rfl
      fresh := fun hs => absurd hs (by simp [h.started]) }

theorem Settled.not_started (h : Settled indent w r s) (hs : w.started = false) : w.stack = [] := by
  rw [← h.stack_eq_nil_iff, h.fresh hs]
  rfl

theorem Settled.isStarted (h : Settled indent w r s) {e : OpenElement} {es : List OpenElement}
    (hs : w.stack = e :: es) : w.started = true := by
  cases hst : w.started with
  | true => rfl
  | false => exact absurd (h.not_started hst) (by simp [hs])

/-- Making room for a node adds the line break that the layout asks for. -/
theorem Settled.beforeNode (hi : IsBlankIndent indent) (h : Settled indent w r s) :
    Reads r w.beforeNode fun w' e r' => e = none ∧
      Ready indent w' r' ⟨s.draft.write (Layout.lead indent s.layouts), Layout.child s.layouts⟩ ∧
      w'.started = true ∧ (w.started = true → r'.mode = .content) ∧
      w'.rootClosed = w.rootClosed := by
  obtain ⟨d, m⟩ := r
  cases hv : w.stack with
  | nil =>
    -- Outside of the root a line break is no part of the draft.
    have hnil : d.stack = [] := h.stack_eq_nil_iff.2 hv
    have hl : s.layouts = [] := by rw [h.layouts, hv]; rfl
    have hfeed : Reader.feed ⟨d, m⟩ (if w.started then ['\n'] else []) = some ⟨d, m⟩ := by
      cases hst : w.started with
      | false => rfl
      | true =>
        obtain rfl : m = .content := h.started hst
        refine (Reader.feed_space (by simp [isSpace])).trans ?_
        rw [Draft.write_of_stack_eq_nil hnil]
    rw [Writer.beforeNode_of_stack_eq_nil h.pending hv]
    refine .ok hfeed ⟨rfl, ?_, rfl, h.started, rfl⟩
    rw [hl, h.draft, Draft.write_of_stack_eq_nil hnil]
    exact { h.toReady with draft := rfl, layouts := by simp [Layout.child, hv] }
  | cons e es =>
    obtain rfl : m = .content := h.started (h.isStarted hv)
    rw [Writer.beforeNode_of_stack_eq_cons h.pending hv, ← hv, ← h.layouts, h.indent]
    refine .ok (Reader.feed_space (isSpace_of_mem_lead hi)) ⟨rfl, ?_, rfl, fun _ => rfl, rfl⟩
    exact {
      indent := rfl
      pending := h.pending
      draft := by rw [h.draft]
      layouts := by simp [h.layouts, hv, Layout.child, OpenElement.layout]
      names := by simpa [hv] using h.names
      isName := by simpa [hv] using h.isName
      root := by simpa using h.root
      closed := fun hc => absurd (h.closed hc) (by simp [hv])
      mode := .inl rfl }

theorem beforeNode (hi : IsBlankIndent indent) (h : Follower indent w r s) :
    Reads r w.beforeNode fun w' e r' => e = none ∧
      Ready indent w' r' ⟨s.draft.write (Layout.lead indent s.layouts), Layout.child s.layouts⟩ ∧
      w'.started = true ∧ (w.started = true → r'.mode = .content) := by
  obtain ⟨r', hr, he, h', hs⟩ := h.closeTag
  rw [Writer.beforeNode_eq_andThen h'.pending]
  refine Reads.andThen ⟨r', hr, he, (h'.beforeNode hi).mono fun w' e r' hw => ?_⟩
  exact ⟨hw.1, hw.2.1, hw.2.2.1, fun hw' => hw.2.2.2.1 (hs.trans hw')⟩

/-! ### The calls one by one -/

/-- What may come of a call: the sketch takes the call if it is accepted, and stays as
    it is if not, and the reader is still in step. -/
def Answered (indent : Option String) (s : Sketch) (c : Call) (w : Writer) (e : Option Error)
    (r : Reader) : Prop :=
  ∃ s', Follower indent w r s' ∧ if e.isNone then s.call indent c.asRead = some s' else s' = s

theorem Answered.accepted {s u : Sketch} {c : Call} (h : Follower indent w r u)
    (hs : s.call indent c.asRead = some u) : Answered indent s c w none r := ⟨u, h, hs⟩

theorem Answered.refused {s : Sketch} {c : Call} {e : Error} (h : Follower indent w r s) :
    Answered indent s c w (some e) r := ⟨s, h, rfl⟩

/-- After a node that leaves the open elements as they are. -/
theorem Ready.settled (h : Ready indent w r s) (hst : w.started = true) {d : Draft}
    (hn : d.names = r.draft.names) (hroot : d.root = r.draft.root) :
    Settled indent w ⟨d, .content⟩ ⟨d, s.layouts⟩ :=
  { h with
    draft := rfl
    names := hn.trans h.names
    root := by rw [hroot, h.root]
    mode := .inl rfl
    started := fun _ => rfl
    fresh := fun hf => absurd hf (by simp [hst]) }

/-- After a text in an element. -/
theorem Settled.text (h : Settled indent w r s) {e : OpenElement} {es : List OpenElement}
    (hs : w.stack = e :: es) (cs : List Char) :
    Settled indent (w.mapTop fun e => { e with hasText := true }) ⟨r.draft.write cs, .content⟩
      ⟨s.draft.write cs, Layout.text s.layouts⟩ :=
  { indent := h.indent
    pending := h.pending
    draft := by rw [h.draft]
    layouts := by simp [h.layouts, hs, Layout.text, OpenElement.layout, Writer.mapTop]
    names := by simpa [hs, Writer.mapTop] using h.names
    isName := by simpa [hs, Writer.mapTop] using h.isName
    root := by rw [Draft.root_write]; exact h.root
    closed := fun hc => absurd (h.closed hc) (by simp [hs])
    mode := .inl rfl
    started := fun _ => rfl
    fresh := fun hf => absurd hf (by simpa [Writer.mapTop] using h.isStarted hs) }

theorem reads_startDocument (h : Follower indent w r s) {version encoding : String}
    (hc : w.started = true ∨ version = "1.0" ∧ encoding = "utf-8") :
    Reads r (w.startDocument version encoding)
      (Answered indent s (.startDocument version encoding)) := by
  unfold Writer.startDocument
  split
  · exact .refuse (.refused h)
  · next hst =>
    obtain ⟨rfl, rfl⟩ := hc.resolve_left hst
    rw [Bool.not_eq_true] at hst
    cases h with
    | inTag e es t h => exact absurd h.started (by simp [hst])
    | settled h =>
      have hnil := h.not_started hst
      have hs : s = .empty := by
        obtain ⟨d, ls⟩ := s
        have hl := h.layouts
        have hd := h.draft
        rw [hnil] at hl
        rw [h.fresh hst] at hd
        simp_all [Sketch.empty, Reader.fresh]
      obtain rfl := h.fresh hst
      subst hs
      have hready : Ready indent { w with started := true } Reader.fresh .empty :=
        { h.toReady with }
      exact .ok Reader.feed_declaration (.accepted (.settled (hready.settled rfl rfl rfl)) rfl)

theorem reads_endDocument (hi : IsBlankIndent indent) (h : Follower indent w r s) :
    Reads r w.endDocument (Answered indent s .endDocument) := by
  refine Reads.andThen ?_
  obtain ⟨r', hr, he, h, -⟩ := h.closeTag
  refine ⟨r', hr, he, ?_⟩
  generalize w.closeTag.writer = v at h
  obtain ⟨d, m⟩ := r'
  cases hst : v.started with
  | false =>
    -- Nothing has been written, so there is nothing to end, and no line to end either.
    have hs := h.not_started hst
    have hfeed : Reader.feed ⟨d, m⟩
        (Writer.endTags v.indent v.stack ++ if false then ['\n'] else []) =
        some ⟨d, m⟩ := by simp [hs, Writer.endTags]
    refine .ok hfeed (.accepted (.settled ?_) rfl)
    have hl : s.layouts = [] := by rw [h.layouts, hs]; rfl
    exact { h with
      draft := by rw [hl]; exact h.draft
      layouts := rfl
      names := hs ▸ h.names
      isName := by simp
      root := by simpa [hs] using h.root
      closed := fun _ => rfl
      started := fun hf => absurd hf (by simp)
      fresh := fun _ => h.fresh hst }
  | true =>
    obtain rfl : m = .content := h.started hst
    have hnames : (Sketch.closeAll indent s.layouts d).names = [] := by
      rw [Sketch.names_closeAll, show d.names = _ from h.names, h.layouts]
      simp
    have hnil := Draft.stack_eq_nil_iff_names.2 hnames
    have hfeed : Reader.feed ⟨d, .content⟩
        (Writer.endTags v.indent v.stack ++ if true then ['\n'] else []) =
          some ⟨Sketch.closeAll indent s.layouts d, .content⟩ := by
      rw [h.indent, Reader.feed_of_append (feed_endTags hi v.stack h.names h.isName), ← h.layouts]
      exact (Reader.feed_space (by simp [isSpace])).trans (by rw [Draft.write_of_stack_eq_nil hnil])
    refine .ok hfeed (.accepted (.settled ?_) rfl)
    exact {
      indent := h.indent
      pending := h.pending
      draft := by rw [h.draft]
      layouts := rfl
      names := hnames
      isName := by simp
      root := by
        rw [Sketch.isSome_root_closeAll _ (by rw [show d.names = _ from h.names, h.layouts]; simp),
          show d.root.isSome = _ from h.root, h.layouts, List.isEmpty_map]
      closed := fun _ => rfl
      mode := .inl rfl
      started := fun _ => rfl
      fresh := fun hf => absurd hf (by simp) }

theorem reads_endElement (hi : IsBlankIndent indent) (h : Follower indent w r s) :
    Reads r w.endElement (Answered indent s .endElement) := by
  rcases w.endElement_cases with ⟨e, es, hs, hp, he, heq⟩ | heq
  · rw [heq]
    -- The sketch has pushed the element that the reader is going to add as a whole.
    cases h with
    | settled h => simp [h.pending] at hp
    | inTag e' es' t h =>
      obtain ⟨rfl, rfl⟩ : e' = e ∧ es' = es := by simpa [h.stack] using hs
      have hl : s.layouts = ⟨false, false⟩ :: es'.map OpenElement.layout := by
        simpa [he, h.bare] using h.layouts
      have hd : s.draft = r.draft.push t := by simpa [Draft.begin, he] using h.draft
      refine .ok (h.begin true) (.accepted (u := ⟨r.draft.addElement t [], s.layouts.tail⟩)
        (.settled ?_) ?_)
      · exact {
          indent := h.indent
          pending := rfl
          draft := rfl
          layouts := by simp [hl, Writer.pop, h.stack]
          names := by simp [Draft.begin, Writer.pop, h.stack, h.names]
          isName x hx := h.isName x (by simp_all [Writer.pop])
          root := by
            by_cases hes : es' = [] <;>
              simp [Draft.begin, Draft.root_addElement, Writer.pop, h.stack, h.stack_eq_nil_iff, hes,
                h.root, h.closed]
          closed := by simp [Writer.pop, h.stack, h.closed]
          mode := .inl rfl
          started := fun _ => rfl
          fresh := fun hf => absurd h.started (by simpa [Writer.pop] using hf) }
      · have hlead : Layout.endLead indent s.layouts = [] := by
          rw [hl]
          cases indent <;> rfl
        have hne : (r.draft.push t).stack ≠ [] := by simp [Draft.push]
        simp [Call.asRead, Sketch.call, Layout.before, hlead, hd, Draft.call, Layout.after,
          Draft.finish_push, hne]
  · -- The end tag of the innermost element, once no start tag is open.
    rw [heq]
    refine Reads.andThen (h.closeTag.mono fun v e r' hv => ?_)
    obtain ⟨he, hv, -⟩ := hv
    refine ⟨he, ?_⟩
    unfold Writer.closeElement
    split
    · exact .refuse (.refused (.settled hv))
    next e es hs =>
    obtain ⟨d, m⟩ := r'
    obtain rfl : m = .content := hv.started (hv.isStarted hs)
    have hn : d.names = (e :: es).map fun e => bareName e.name := hs ▸ hv.names
    have hl : s.layouts = (e :: es).map OpenElement.layout := hs ▸ hv.layouts
    rw [hv.indent]
    refine .ok (feed_endTag hi hn (hv.isName e (by simp [hs])))
      (.accepted (u := ⟨(d.write (Layout.endLead indent s.layouts)).finish, s.layouts.tail⟩)
        (.settled ?_) ?_)
    · rw [← hl]
      have hn' : (d.write (Layout.endLead indent s.layouts)).names = _ := (d.names_write _).trans hn
      exact {
        indent := hv.indent
        pending := hv.pending
        draft := rfl
        layouts := by simp [hl, Writer.pop, hs]
        names := by rw [Draft.names_finish, hn']; simp [Writer.pop, hs]
        isName x hx := hv.isName x (by simp_all [Writer.pop])
        root := by
          rw [Draft.isSome_root_finish hn', Draft.root_write, show d.root.isSome = _ from hv.root]
          simp [Writer.pop, hs]
        closed := by
          have hc : v.rootClosed ≠ true := fun hc => by simp [hv.closed hc] at hs
          simp [Writer.pop, hs, hc]
        mode := .inl rfl
        started := fun _ => rfl
        fresh := fun hf => absurd (hv.isStarted hs) (by simpa [Writer.pop] using hf) }
    · have hd : d.stack ≠ [] := hv.stack_ne_nil hs
      simp [Call.asRead, Sketch.call, Draft.call, Layout.before, Layout.after, hd, hv.draft]

theorem reads_comment (hi : IsBlankIndent indent) (h : Follower indent w r s) (text : String) :
    Reads r (w.comment text) (Answered indent s (.comment text)) := by
  unfold Writer.comment
  split
  · exact .refuse (.refused h)
  next hbad =>
  split
  · exact .refuse (.refused h)
  simp only [Bool.or_eq_true, not_or, Bool.not_eq_true] at hbad
  refine Reads.andThen ((h.beforeNode hi).mono fun v e r' hv => ?_)
  obtain ⟨he, hready, hst, -⟩ := hv
  refine ⟨he, .ok (Reader.feed_comment hready.mode hbad.1) (.accepted (.settled
    (hready.settled hst (by simp) (by simp))) ?_)⟩
  rw [← hready.draft]
  rfl

theorem reads_instruction (hi : IsBlankIndent indent) (h : Follower indent w r s) {target : String}
    {data : Option String} (hc : w.started = true ∨ '\n' ∉ target.toList) :
    Reads r (w.instruction target data) (Answered indent s (.instruction target data)) := by
  unfold Writer.instruction
  simp only
  split
  · exact .refuse (.refused h)
  next htarget =>
  split
  · exact .refuse (.refused h)
  next hdata =>
  split
  · exact .refuse (.refused h)
  simp only [Bool.or_eq_true, Bool.not_eq_true', decide_eq_true_eq, not_or, Bool.not_eq_false,
    Bool.not_eq_true] at htarget hdata
  refine Reads.andThen ((h.beforeNode hi).mono fun v e r' hv => ?_)
  obtain ⟨he, hready, hst, hmode⟩ := hv
  -- At the start of a document an instruction with that target would be a declaration.
  have hxml : r'.mode = .content ∨ bareName target ≠ "xml" := by
    refine hc.imp hmode fun hlf hx => htarget.2 ?_
    rw [← bareName_eq_self hlf, hx, ← String.toList_inj]
    exact String.toList_map.trans rfl
  refine ⟨he, .ok (Reader.feed_instruction hready.mode htarget.1 hdata hxml) (.accepted (.settled
    (hready.settled hst (by simp) (by simp))) ?_)⟩
  rw [← hready.draft]
  rfl

theorem reads_cdata (h : Follower indent w r s) (text : String) :
    Reads r (w.cdata text) (Answered indent s (.cdata text)) := by
  unfold Writer.cdata
  split
  · exact .refuse (.refused h)
  refine Reads.andThen (h.closeTag.mono fun v e r' hv => ?_)
  obtain ⟨he, hv, -⟩ := hv
  refine ⟨he, ?_⟩
  split
  · exact .refuse (.refused (.settled hv))
  next e es hs =>
  obtain ⟨d, m⟩ := r'
  obtain rfl : m = .content := hv.started (hv.isStarted hs)
  have hd : d.stack ≠ [] := hv.stack_ne_nil hs
  refine .ok (Reader.feed_cdata hd text.toList) (.accepted (.settled (hv.text hs text.toList)) ?_)
  have hd' : s.draft.stack ≠ [] := by rwa [hv.draft]
  simp [Call.asRead, Sketch.call, Layout.before, Draft.call, hd', Layout.after]

theorem reads_characters (h : Follower indent w r s) (text : String) :
    Reads r (w.characters text) (Answered indent s (.characters text)) := by
  -- The sketch takes the text in an element, and white space anywhere.
  have haccept : ∀ {v r'} (hv : Settled indent v r' s),
      v.stack ≠ [] ∨ text.toList.all Text.isBlank →
      s.call indent (.characters text) = some ⟨s.draft.write text.toList,
        if text = "" then s.layouts else Layout.text s.layouts⟩ := by
    intro v r' hv hor
    have : (s.draft.stack.isEmpty && !text.toList.all Text.isBlank) = false := by
      rcases hor with hor | hor
      · have : s.draft.stack ≠ [] := by rwa [hv.draft, ne_eq, hv.stack_eq_nil_iff]
        simp [this]
      · simp [hor]
    simp [Sketch.call, Layout.before, Draft.call, Draft.addText, this, Layout.after]
  unfold Writer.characters
  split
  · next htext =>
    subst htext
    refine .ok rfl (.accepted h ?_)
    simp [Call.asRead, Sketch.call, Layout.before, Draft.call, Draft.addText, Layout.after]
  next htext =>
  refine Reads.andThen (h.closeTag.mono fun v e r' hv => ?_)
  obtain ⟨he, hv, -⟩ := hv
  refine ⟨he, ?_⟩
  split
  · next hs =>
    split
    · next hblank =>
      refine .ok rfl (.accepted (.settled hv) ?_)
      have hd : s.draft.stack = [] := by rw [hv.draft, hv.stack_eq_nil_iff, hs]
      refine (haccept hv (.inr hblank)).trans ?_
      rw [Draft.write_of_stack_eq_nil hd, if_neg htext, hv.layouts, hs]
      obtain ⟨d, ls⟩ := s
      simp [Layout.text, show ls = [] by rw [show ls = _ from hv.layouts, hs]; rfl]
    · exact .refuse (.refused (.settled hv))
  next e es hs =>
  split
  · exact .refuse (.refused (.settled hv))
  obtain ⟨d, m⟩ := r'
  obtain rfl : m = .content := hv.started (hv.isStarted hs)
  have hd : d.stack ≠ [] := hv.stack_ne_nil hs
  refine .ok (Reader.feed_encodeText hd text.toList)
    (.accepted (.settled (hv.text hs text.toList)) ?_)
  refine (haccept hv (.inl (by simp [hs]))).trans ?_
  rw [if_neg htext]

theorem reads_openElement (hi : IsBlankIndent indent) (h : Follower indent w r s) (name : Datum)
    (isEmpty : Bool) :
    Reads r (w.openElement name isEmpty)
      (Answered indent s (if isEmpty then .emptyElement name else .startElement name)) := by
  unfold Writer.openElement
  split
  · next n =>
    split
    · next hname =>
      refine Reads.andThen (h.closeTag.mono fun v e r' hv => ?_)
      obtain ⟨he, hv, -⟩ := hv
      refine ⟨he, ?_⟩
      split
      · exact .refuse (.refused (.settled hv))
      next hroom =>
      have hclosed : v.rootClosed = false := by
        cases hc : v.rootClosed with
        | false => rfl
        | true => exact absurd hroom (by simp [hv.closed hc, hc])
      have hcall : s.call indent (Call.asRead
          (if isEmpty then .emptyElement (.text n) else .startElement (.text n))) =
          some ⟨(s.draft.write (Layout.lead indent s.layouts)).begin ⟨bareName n, []⟩ isEmpty,
            if isEmpty then Layout.child s.layouts
            else ⟨false, false⟩ :: Layout.child s.layouts⟩ := by
        have hroot : s.draft.root = none := by
          have := hv.root
          rw [hclosed, Option.isSome_eq_false_iff, Option.isNone_iff_eq_none] at this
          rw [hv.draft, this]
        have hroom : s.draft.hasRoom = true := by simp [Draft.hasRoom, hroot]
        cases isEmpty <;>
          simp [Call.asRead, Sketch.call, Layout.before, Draft.call, Layout.after, hroom,
            Draft.begin]
      refine Reads.andThen ((hv.beforeNode hi).mono fun u e r'' hu => ?_)
      obtain ⟨he, hready, hst, -, hc⟩ := hu
      obtain ⟨d, m⟩ := r''
      obtain ⟨r₃, hr₃, hd, htag⟩ := Reader.feed_startTag (d := d) hready.mode hname
      refine ⟨he, .ok hr₃ (.accepted (.inTag ⟨n, isEmpty, false, false, []⟩ u.stack
        ⟨bareName n, []⟩ ?_) hcall)⟩
      have hroot : d.root = none := by
        have := hready.root
        rw [hc, hclosed, Option.isSome_eq_false_iff, Option.isNone_iff_eq_none] at this
        exact this
      exact {
        indent := hready.indent
        pending := rfl
        started := hst
        stack := rfl
        tag := htag
        name := rfl
        draft := by
          have hdraft : s.draft.write (Layout.lead indent s.layouts) = d := hready.draft
          rw [hd, ← hdraft]
        layouts := by
          have := hready.layouts
          cases isEmpty <;> simp_all [OpenElement.layout]
        bare := rfl
        names := by rw [hd]; exact hready.names
        isName := by simpa using ⟨hname, hready.isName⟩
        root := by rw [hd]; exact hroot
        closed := hc.trans hclosed }
    · exact .refuse (.refused h)
  · exact .refuse (.refused h)

theorem reads_addAttribute (h : Follower indent w r s) (name value : Datum) :
    Reads r (w.addAttribute name value) (Answered indent s (.attribute name value)) := by
  unfold Writer.addAttribute
  split
  · next e es hp hs =>
    split
    · next n =>
      split
      · exact .refuse (.refused h)
      next hname =>
      split
      · exact .refuse (.refused h)
      split
      · exact .refuse (.refused h)
      cases h with
      | settled h => simp [h.pending] at hp
      | inTag e' es' t h =>
        obtain ⟨rfl, rfl⟩ : e' = e ∧ es' = es := by simpa [h.stack] using hs
        simp only [Bool.not_eq_true', Bool.not_eq_false] at hname
        have hcall : s.call indent (Call.asRead (.attribute (.text n) value)) =
            some ⟨r.draft.begin (t.add (bareName n) value.display) e'.isEmpty, s.layouts⟩ := by
          cases he : e'.isEmpty <;>
            simp [Call.asRead, Sketch.call, Layout.before, Draft.call, Layout.after, h.draft, he,
              Draft.begin, Draft.addAttribute_push, Draft.addAttribute_addElement]
        have hfeed := Reader.feed_attribute h.tag hname value.display.toList
        rw [String.ofList_toList] at hfeed
        refine .ok hfeed (.accepted (.inTag { e' with attributes := e'.attributes ++ [n] } es'
          (t.add (bareName n) value.display) ?_) hcall)
        exact {
          indent := h.indent
          pending := h.pending
          started := h.started
          stack := by simp [Writer.mapTop, h.stack]
          tag := rfl
          name := h.name
          draft := rfl
          layouts := by
            have := h.layouts
            cases he : e'.isEmpty <;> simp_all [OpenElement.layout]
          bare := h.bare
          names := h.names
          isName := by simpa using h.isName
          root := h.root
          closed := h.closed }
    · exact .refuse (.refused h)
  · exact .refuse (.refused h)

/-- Reader and sketch stay in step, whatever call is made. -/
theorem step (hi : IsBlankIndent indent) (h : Follower indent w r s) {c : Call}
    (hc : w.started = true ∨ c.MayComeFirst) : Reads r (w.step c) (Answered indent s c) := by
  cases c with
  | startDocument version encoding => exact reads_startDocument h hc
  | endDocument => exact reads_endDocument hi h
  | startElement name => exact reads_openElement hi h name false
  | emptyElement name => exact reads_openElement hi h name true
  | endElement => exact reads_endElement hi h
  | defaultNamespace uri => exact reads_addAttribute h "xmlns" uri
  | declareNamespace label uri =>
    rw [Writer.step, Writer.declareNamespace_eq]
    exact reads_addAttribute h (.text (namespaceName label)) uri
  | «attribute» name value => exact reads_addAttribute h name value
  | characters text => exact reads_characters h text
  | characterSlice buffer start length => exact reads_characters h (buffer.sliceText start length)
  | cdata text => exact reads_cdata h text
  | comment text => exact reads_comment hi h text
  | instruction target data => exact reads_instruction hi h hc
  | flush =>
    refine .ok rfl (.accepted h ?_)
    simp [Call.asRead, Sketch.call, Draft.call, Layout.before, Layout.after]

end Follower

end InstallerKit.Markup
