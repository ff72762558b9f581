import InstallerKit.Markup.Element
import InstallerKit.Proofs.Markup.Acceptance
import InstallerKit.Proofs.Markup.Follower

/-!
# Elements as they are written and read

The calls that write an element inside of another one are accepted if, and only if,
all of its tree can be written (`Element.IsWritable`). The sketch they make has one
node more, which reads as the element (`Element.ReadAs`): it has its name, its
attributes in order, and its text and its children and nothing else, once the line
breaks of the layout have been dropped. There are none where there is a text.

* `Element.leads_calls`: when an element is accepted;
* `Element.writes_calls`: what it is in the sketch.
-/

namespace InstallerKit.Markup

/-- Content without the character data that is only white space. The characters just
    before the content are still to be judged. -/
def dropSpaceAfter (pending : List Char) : List Node → List Node
  | [] => if pending.all isSpace then [] else pending.map .char
  | .char c :: ns => dropSpaceAfter (pending ++ [c]) ns
  | n :: ns => (if pending.all isSpace then [] else pending.map .char) ++ n :: dropSpaceAfter [] ns

/-- Content without the character data that is only white space. -/
def dropSpace (ns : List Node) : List Node :=
  dropSpaceAfter [] ns

theorem dropSpaceAfter_append (cs pending : List Char) (ns : List Node) :
    dropSpaceAfter pending (cs.map .char ++ ns) = dropSpaceAfter (pending ++ cs) ns := by
  induction cs generalizing pending with
  | nil => simp
  | cons c cs ih => simp [dropSpaceAfter, ih]

/-- White space by itself is dropped. -/
theorem dropSpace_space {cs : List Char} (h : ∀ c ∈ cs, isSpace c = true) :
    dropSpace (cs.map .char) = [] := by
  have := dropSpaceAfter_append cs [] []
  simp only [List.append_nil, List.nil_append] at this
  rw [dropSpace, this, dropSpaceAfter, if_pos (List.all_eq_true.2 h)]

/-- White space before an element is dropped. -/
theorem dropSpace_element {cs : List Char} (h : ∀ c ∈ cs, isSpace c = true) (t : Tag)
    (content ns : List Node) :
    dropSpace (cs.map .char ++ .element t content :: ns) = .element t content :: dropSpace ns := by
  rw [dropSpace, dropSpaceAfter_append, List.nil_append, dropSpaceAfter,
    if_pos (List.all_eq_true.2 h)]
  · rfl
  · simp

namespace Element

mutual

/-- What holds of an element as soon as it holds of its children holds of all. -/
theorem byChildren {p : Element → Prop} (h : ∀ e : Element, (∀ c ∈ e.children, p c) → p e) :
    ∀ e, p e
  | ⟨name, attributes, text, children⟩ =>
    h ⟨name, attributes, text, children⟩ (byChildren_all h children)

theorem byChildren_all {p : Element → Prop} (h : ∀ e : Element, (∀ c ∈ e.children, p c) → p e) :
    ∀ es : List Element, ∀ e ∈ es, p e
  | [] => fun _ he => absurd he List.not_mem_nil
  | e :: es => List.forall_mem_cons.2 ⟨byChildren h e, byChildren_all h es⟩

end

/-- An element and everything below it has a property. -/
inductive All (p : Element → Prop) : Element → Prop
  | intro {e : Element} (self : p e) (children : ∀ c ∈ e.children, All p c) : All p e

theorem all_iff {p : Element → Prop} {e : Element} :
    e.All p ↔ p e ∧ ∀ c ∈ e.children, c.All p :=
  ⟨fun ⟨hs, hc⟩ => ⟨hs, hc⟩, fun h => ⟨h.1, h.2⟩⟩

/-- An element can be written, apart from its children. -/
def IsWritable (e : Element) : Prop :=
  isName e.name.toList ∧ (∀ a ∈ e.attributes.entries, isName a.1.toList ∧ IsClean a.2) ∧
    ∀ t ∈ e.text, IsClean t

instance (e : Element) : Decidable e.IsWritable :=
  inferInstanceAs (Decidable (_ ∧ (∀ a ∈ e.attributes.entries, _) ∧ ∀ t ∈ e.text, _))

/-- The calls that write an element with a start and an end tag. -/
def bracketed (e : Element) : List Call :=
  .startElement e.name :: (e.attributeCalls ++ (e.text.toList.map .characters ++
    (callsAll e.children ++ [.endElement])))

theorem calls_eq (e : Element) :
    e.calls = if e.text.isNone && e.children.isEmpty then .emptyElement e.name :: e.attributeCalls
      else e.bracketed := by
  obtain ⟨name, attributes, text, children⟩ := e
  cases text <;> cases children <;> simp [calls, bracketed]

theorem callsAll_eq_flatMap (es : List Element) : callsAll es = es.flatMap calls := by
  induction es with
  | nil => simp [callsAll]
  | cons e es ih => simp [callsAll, ih]

/-! ### Acceptance -/

/-- An element with a start and an end tag is accepted if its children are. -/
theorem leads_bracketed {e : Element}
    (hc : ∀ c ∈ e.children, ∀ (n : Nat) (w : Writer), w.level = n + 1 →
      Leads w c.calls (c.All IsWritable) (·.level = n + 1))
    {n : Nat} {w : Writer} (hw : w.level = n + 1) :
    Leads w e.bracketed (e.All IsWritable) (·.level = n + 1) := by
  have htag : ∀ v : Writer, v.InTag false ([] ++ e.attributes.entries.map Prod.fst) (n + 1) →
      v.level = n + 1 + 1 := fun v hv => hv.level
  have htext : ∀ v : Writer, v.level = n + 1 + 1 →
      Leads v (e.text.toList.map .characters) (∀ t ∈ e.text, IsClean t) (·.level = n + 1 + 1) := by
    intro v hv
    cases e.text with
    | none => exact (Leads.nil hv).congr (by simp)
    | some t => exact (leads_characters hv t).congr (by simp)
  have hchildren : ∀ v : Writer, v.level = n + 1 + 1 →
      Leads v (callsAll e.children) (∀ c ∈ e.children, c.All IsWritable) (·.level = n + 1 + 1) := by
    intro v hv
    rw [callsAll_eq_flatMap]
    exact Leads.flatMap (fun c hx => hc c hx (n + 1)) hv
  refine ((leads_startElement hw e.name).cons fun v hv =>
    (((leads_attributes hv e.attributes.distinct).mono htag).append fun v hv =>
      (htext v hv).append fun v hv =>
        (hchildren v hv).append fun v hv => leads_endElement hv)).congr ?_
  rw [all_iff, IsWritable]
  simp only [and_assoc, and_true]

/-- Inside of another one, an element is accepted if all of it can be written. -/
theorem leads_calls (e : Element) :
    ∀ (n : Nat) (w : Writer), w.level = n + 1 →
      Leads w e.calls (e.All IsWritable) (·.level = n + 1) := by
  induction e using byChildren with | h e hc => ?_
  intro n w hw
  rw [calls_eq]
  split
  · next hempty =>
    simp only [Bool.and_eq_true, Option.isNone_iff_eq_none, List.isEmpty_iff] at hempty
    refine (((leads_emptyElement hw e.name).cons fun v hv =>
      leads_attributes hv e.attributes.distinct).mono fun v hv => hv.level).congr ?_
    rw [all_iff, IsWritable]
    simp [hempty]
  · exact leads_bracketed hc hw

end Element

/-! ### Content -/

namespace Draft

/-- Adds nodes to the innermost open element. -/
def addNodes (d : Draft) (ns : List Node) : Draft :=
  match d.stack with
  | [] => d
  | f :: rest => { d with stack := ⟨f.tag, ns.reverse ++ f.content⟩ :: rest }

variable {d : Draft}

@[simp] theorem addNodes_nil : d.addNodes [] = d := d.write_nil

@[simp] theorem addNodes_addNodes (ns ms : List Node) :
    (d.addNodes ns).addNodes ms = d.addNodes (ns ++ ms) := by
  unfold addNodes
  cases h : d.stack <;> simp [h]

@[simp] theorem stack_addNodes_eq_nil_iff {ns : List Node} :
    (d.addNodes ns).stack = [] ↔ d.stack = [] := by
  unfold addNodes
  split <;> simp_all

theorem write_eq_addNodes (cs : List Char) : d.write cs = d.addNodes (cs.map .char) := by
  unfold write addNodes
  cases d.stack <;> simp

theorem addElement_eq_addNodes (h : d.stack ≠ []) (t : Tag) (content : List Node) :
    d.addElement t content = d.addNodes [.element t content] := by
  unfold addElement addNodes
  cases hs : d.stack with
  | nil => exact absurd hs h
  | cons f rest => rfl

theorem finish_addNodes_push (t : Tag) (ns : List Node) :
    ((d.push t).addNodes ns).finish = d.addElement t ns := by
  simp [push, addNodes, finish]

/-- Attributes go to the element that has just been begun. -/
theorem addAttribute_begin (t : Tag) (isEmpty : Bool) (name value : String) :
    (d.begin t isEmpty).addAttribute name value = some (d.begin (t.add name value) isEmpty) := by
  cases isEmpty
  · exact addAttribute_push t name value
  · exact addAttribute_addElement t [] name value

end Draft

namespace Sketch

variable {indent : Option String}

theorem calls_append (s : Sketch) (cs ds : List Call) :
    s.calls indent (cs ++ ds) = (s.calls indent cs).bind fun s => s.calls indent ds := by
  induction cs generalizing s with
  | nil => rfl
  | cons c cs ih =>
    rw [List.cons_append, calls, calls]
    cases s.call indent c with
    | none => rfl
    | some s => exact ih s

theorem calls_of_append {s s' : Sketch} {cs ds : List Call} (h : s.calls indent cs = some s') :
    s.calls indent (cs ++ ds) = s'.calls indent ds := by
  rw [calls_append, h]
  rfl

theorem calls_of_cons {s s' : Sketch} {c : Call} {cs : List Call} (h : s.call indent c = some s') :
    s.calls indent (c :: cs) = s'.calls indent cs := by
  rw [calls, h]
  rfl

/-- An element is begun inside of another one. -/
theorem call_begin {s : Sketch} (hs : s.draft.stack ≠ []) (name : String) (isEmpty : Bool) :
    s.call indent (if isEmpty then .emptyElement name else .startElement name) =
      some ⟨(s.draft.write (Layout.lead indent s.layouts)).begin ⟨name, []⟩ isEmpty,
        if isEmpty then Layout.child s.layouts
        else ⟨false, false⟩ :: Layout.child s.layouts⟩ := by
  cases isEmpty <;>
    simp [call, Layout.before, Draft.call, Draft.hasRoom, hs, Draft.begin, Layout.after]

/-- The attributes of an element that has just been begun. -/
theorem calls_attributes {d : Draft} (ls : List Layout) (t : Tag) (isEmpty : Bool)
    (entries : List (String × String)) :
    calls indent ⟨d.begin t isEmpty, ls⟩ (entries.map fun (name, value) => .attribute name value) =
      some ⟨d.begin { t with attributes := t.attributes ++ entries } isEmpty, ls⟩ := by
  induction entries generalizing t with
  | nil => simp [calls]
  | cons a entries ih =>
    have hcall : call indent ⟨d.begin t isEmpty, ls⟩ (.attribute a.1 a.2) =
        some ⟨d.begin (t.add a.1 a.2) isEmpty, ls⟩ := by
      simp [call, Layout.before, Draft.call, Draft.addAttribute_begin, Layout.after, Datum.display]
    refine (calls_of_cons hcall).trans ((ih (t.add a.1 a.2)).trans ?_)
    simp [Tag.add]

/-- The text of an element, if there is one. -/
theorem calls_text (d : Draft) (t : Tag) (ls : List Layout) (text : Option String) :
    calls indent ⟨d.push t, ⟨false, false⟩ :: ls⟩ (text.toList.map .characters) =
      some ⟨(d.push t).addNodes ((text.getD "").toList.map .char),
        ⟨false, decide (text.getD "" ≠ "")⟩ :: ls⟩ := by
  cases text with
  | none => simp [calls]
  | some text =>
    by_cases h : text = "" <;>
      simp [calls, call, Layout.before, Draft.call, Draft.addText, Draft.push, Layout.after,
        Layout.text, Draft.write_eq_addNodes, h]

/-- The end of an element, with the line break before it. -/
theorem call_endElement (d : Draft) (t : Tag) (ns : List Node) (l : Layout) (ls : List Layout) :
    call indent ⟨(d.push t).addNodes ns, l :: ls⟩ .endElement =
      some ⟨d.addElement t (ns ++ (Layout.endLead indent (l :: ls)).map .char), ls⟩ := by
  have hne : (d.push t).stack ≠ [] := by simp [Draft.push]
  simp [call, Layout.before, Draft.call, Layout.after, Draft.write_eq_addNodes,
    Draft.finish_addNodes_push, hne]

end Sketch

namespace Element

mutual

/-- A node reads as an element. -/
inductive ReadAs : Element → Node → Prop
  /-- Without a text, what is only white space does not count. -/
  | children {e : Element} {content : List Node} (text : e.text.getD "" = "")
      (nodes : ReadAllAs e.children (dropSpace content)) :
      ReadAs e (.element ⟨e.name, e.attributes.entries⟩ content)
  | text {e : Element} {text : String} {nodes : List Node} (some : e.text = some text)
      (ne : text ≠ "") (read : ReadAllAs e.children nodes) :
      ReadAs e (.element ⟨e.name, e.attributes.entries⟩ (text.toList.map .char ++ nodes))

/-- Nodes read as elements, one by one. -/
inductive ReadAllAs : List Element → List Node → Prop
  | nil : ReadAllAs [] []
  | cons {e : Element} {n : Node} {es : List Element} {ns : List Node} (head : ReadAs e n)
      (tail : ReadAllAs es ns) : ReadAllAs (e :: es) (n :: ns)

end

/-- Inside of another element, some calls add a node to a sketch that reads as an
    element. -/
def Writes (indent : Option String) (cs : List Call) (e : Element) : Prop :=
  ∀ s : Sketch, s.draft.stack ≠ [] → ∃ t content, ReadAs e (.element t content) ∧
    s.calls indent cs = some ⟨s.draft.addNodes
      ((Layout.lead indent s.layouts).map .char ++ [.element t content]), Layout.child s.layouts⟩

section Writes

variable {indent : Option String} (hi : IsBlankIndent indent)

include hi

/-- What belongs to each of some things adds nodes that read as their elements, and
    white space, but none after a text. -/
theorem Writes.flatMap {α : Type} {as : List α} {f : α → List Call} {g : α → Element}
    (h : ∀ a ∈ as, Writes indent (f a) (g a)) {s : Sketch} (hs : s.draft.stack ≠ [])
    {l : Layout} {ls : List Layout} (hl : s.layouts = l :: ls) :
    ∃ nodes content l', ReadAllAs (as.map g) nodes ∧
      (∀ ns, dropSpace (content ++ ns) = nodes ++ dropSpace ns) ∧
      (l.hasText = true → content = nodes) ∧ l'.hasText = l.hasText ∧
      s.calls indent (as.flatMap f) = some ⟨s.draft.addNodes content, l' :: ls⟩ := by
  induction as generalizing s l with
  | nil =>
    refine ⟨[], [], l, .nil, fun ns => rfl, fun _ => rfl, rfl, ?_⟩
    rw [Draft.addNodes_nil, ← hl]
    rfl
  | cons a as ih =>
    obtain ⟨t, inner, hread, hcalls⟩ := h a (by simp) s hs
    obtain ⟨nodes, content, l', hnodes, hdrop, htext, hl', hcalls'⟩ := ih
      (fun x hx => h x (by simp [hx]))
      (s := ⟨s.draft.addNodes ((Layout.lead indent s.layouts).map .char ++ [.element t inner]),
        Layout.child s.layouts⟩) (by simpa using hs) (l := { l with hasChildren := true })
      (by rw [hl]; rfl)
    refine ⟨.element t inner :: nodes,
      (Layout.lead indent s.layouts).map .char ++ .element t inner :: content, l',
      .cons hread hnodes,
      fun ns => ?_, fun ht => ?_, hl', ?_⟩
    · rw [List.append_assoc, List.cons_append, dropSpace_element (isSpace_of_mem_lead hi), hdrop]
      rfl
    · -- There are no line breaks after a text.
      have hlead : Layout.lead indent s.layouts = [] := by
        cases indent <;> simp [hl, Layout.lead, ht]
      rw [hlead, htext ht]
      rfl
    · rw [List.flatMap_cons, Sketch.calls_of_append hcalls, hcalls']
      simp

/-- An element with a start and an end tag is written if its children are. -/
theorem writes_bracketed {e : Element} (hc : ∀ c ∈ e.children, Writes indent c.calls c) :
    Writes indent e.bracketed e := by
  intro s hs
  let tag : Tag := ⟨e.name, e.attributes.entries⟩
  let d := s.draft.write (Layout.lead indent s.layouts)
  have hattributes : Sketch.calls indent ⟨d.begin ⟨e.name, []⟩ false,
        ⟨false, false⟩ :: Layout.child s.layouts⟩ e.attributeCalls =
      some ⟨d.push tag, ⟨false, false⟩ :: Layout.child s.layouts⟩ :=
    Sketch.calls_attributes _ _ _ _
  obtain ⟨nodes, content, l, hnodes, hdrop, htext, hl, hchildren⟩ := Writes.flatMap hi hc
    (s := ⟨(d.push tag).addNodes ((e.text.getD "").toList.map .char),
      ⟨false, decide (e.text.getD "" ≠ "")⟩ :: Layout.child s.layouts⟩) (by simp [Draft.push]) rfl
  rw [List.map_id'] at hnodes
  rw [← callsAll_eq_flatMap, Draft.addNodes_addNodes] at hchildren
  refine ⟨tag, (e.text.getD "").toList.map .char ++ content ++
    (Layout.endLead indent (l :: Layout.child s.layouts)).map .char, ?_, ?_⟩
  · -- Line breaks are dropped if there is no text, and if there is one there are none.
    by_cases ht : e.text.getD "" = ""
    · refine .children ht ?_
      have hspace :
          dropSpace ((Layout.endLead indent (l :: Layout.child s.layouts)).map .char) = [] :=
        dropSpace_space (isSpace_of_mem_endLead hi)
      rw [ht, String.toList_empty, List.map_nil, List.nil_append, hdrop, hspace, List.append_nil]
      exact hnodes
    · obtain ⟨t, hsome⟩ : ∃ t, e.text = some t := by
        cases h : e.text with
        | none => exact absurd (by rw [h]; rfl) ht
        | some t => exact ⟨t, rfl⟩
      have hlead : Layout.endLead indent (l :: Layout.child s.layouts) = [] := by
        cases indent <;> simp [Layout.endLead, hl, ht]
      rw [hlead, htext (by simpa using ht), List.map_nil, List.append_nil, hsome]
      exact .text hsome (by simpa [hsome] using ht) hnodes
  · refine (Sketch.calls_of_cons (Sketch.call_begin hs e.name false)).trans ?_
    refine (Sketch.calls_of_append hattributes).trans ?_
    rw [Sketch.calls_of_append (Sketch.calls_text ..), Sketch.calls_of_append hchildren,
      Sketch.calls_of_cons (Sketch.call_endElement ..), Draft.addElement_eq_addNodes (by simpa [d])]
    simp [d, tag, Sketch.calls, Draft.write_eq_addNodes]

/-- An element is written inside of another one. -/
theorem writes_calls (e : Element) : Writes indent e.calls e := by
  induction e using byChildren with | h e hc => ?_
  rw [calls_eq]
  split
  · next hempty =>
    simp only [Bool.and_eq_true, Option.isNone_iff_eq_none, List.isEmpty_iff] at hempty
    intro s hs
    refine ⟨⟨e.name, e.attributes.entries⟩, [], .children (by rw [hempty.1]; rfl) ?_, ?_⟩
    · rw [hempty.2]
      exact .nil
    · refine (Sketch.calls_of_cons (Sketch.call_begin hs e.name true)).trans ?_
      refine (Sketch.calls_attributes _ _ _ _).trans ?_
      simp [Draft.begin, Draft.addElement_eq_addNodes, hs, Draft.write_eq_addNodes]
  · exact writes_bracketed hi hc

end Writes

end Element

end InstallerKit.Markup
