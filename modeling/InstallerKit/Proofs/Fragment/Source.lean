import InstallerKit.Fragment.Source
import InstallerKit.Proofs.Markup.Element
import InstallerKit.Proofs.Markup.ReadBack

/-!
# Sources are read back

A source whose producers write given elements comes down to a list of calls that is
known beforehand: the protection of literal dollars changes the values and the texts
of the elements, and nothing else (`Element.protect`). It is rendered if all elements
can be written, and then reads as its fragments, in order, with the protected
elements in them.

* `render_elements`: when a source of given elements is rendered, and what it reads as.
-/

namespace InstallerKit

/-- The table with other values under the same names. -/
def Table.map {α β : Type} (f : α → β) (t : Table α) : Table β where
  entries := t.entries.map fun (k, v) => (k, f v)
  distinct := by
    have heq : (t.entries.map fun (k, v) => (k, f v)).map Prod.fst = t.entries.map Prod.fst := by
      simp [Function.comp_def]
    rw [heq]
    exact t.distinct

namespace Markup.Element

open Preprocessor (escapeText)

mutual

/-- An element with the literal dollars of its values and texts protected. -/
def protect : Element → Element
  | ⟨name, attributes, text, children⟩ =>
    ⟨name, attributes.map escapeText, text.map escapeText, protectAll children⟩

def protectAll : List Element → List Element
  | [] => []
  | e :: es => protect e :: protectAll es

end

theorem protectAll_eq_map (es : List Element) : protectAll es = es.map protect := by
  induction es with
  | nil => rfl
  | cons e es ih => rw [protectAll, ih, List.map_cons]

theorem protect_eq (e : Element) :
    e.protect = ⟨e.name, e.attributes.map escapeText, e.text.map escapeText,
      e.children.map protect⟩ := by
  obtain ⟨name, attributes, text, children⟩ := e
  rw [protect, protectAll_eq_map]

theorem map_escaped_attributeCalls (e : Element) :
    e.attributeCalls.map Call.escaped = e.protect.attributeCalls.map .ok := by
  rw [protect_eq, attributeCalls, attributeCalls, Table.map]
  simp only [List.map_map]
  rfl

/-- What the layer that protects literal dollars makes of the calls for an element. -/
theorem map_escaped_bracketed {e : Element}
    (hc : ∀ c ∈ e.children, c.calls.map Call.escaped = c.protect.calls.map .ok) :
    e.bracketed.map Call.escaped = e.protect.bracketed.map .ok := by
  have htext : (e.text.toList.map Call.characters).map Call.escaped =
      ((e.text.map escapeText).toList.map Call.characters).map .ok := by
    cases e.text <;> rfl
  have hchildren : (callsAll e.children).map Call.escaped =
      (callsAll (e.children.map protect)).map .ok := by
    rw [callsAll_eq_flatMap, callsAll_eq_flatMap, List.map_flatMap, List.map_flatMap,
      List.flatMap_map, List.flatMap_def, List.flatMap_def, List.map_congr_left hc]
  rw [bracketed, bracketed, List.map_cons, List.map_cons, List.map_append, List.map_append,
    List.map_append, List.map_append, List.map_append, List.map_append, map_escaped_attributeCalls,
    htext, hchildren, protect_eq]
  rfl

theorem map_escaped_calls (e : Element) :
    e.calls.map Call.escaped = e.protect.calls.map .ok := by
  induction e using byChildren with | h e hc => ?_
  have hempty : (e.protect.text.isNone && e.protect.children.isEmpty) =
      (e.text.isNone && e.children.isEmpty) := by simp [protect_eq]
  rw [calls_eq, calls_eq, hempty]
  split
  · rw [List.map_cons, List.map_cons, map_escaped_attributeCalls, protect_eq]
    rfl
  · exact map_escaped_bracketed hc

/-- Protecting dollars adds no character but dollars. -/
theorem isClean_escapeText {s : String} : IsClean (escapeText s) ↔ IsClean s := by
  have h : ∀ cs : List Char, (∀ c ∈ Preprocessor.escape cs, isForbidden c = false) ↔
      ∀ c ∈ cs, isForbidden c = false := by
    intro cs
    induction cs with
    | nil => rfl
    | cons c cs ih =>
      rw [Preprocessor.escape]
      split
      · next hd => simp [ih, hd.1]
      · simp [ih]
  rw [IsClean, escapeText, String.toList_ofList, h]
  rfl

theorem isWritable_protect {e : Element} : e.protect.IsWritable ↔ e.IsWritable := by
  rw [protect_eq, IsWritable, IsWritable, Table.map]
  have htext : (∀ t ∈ e.text.map escapeText, IsClean t) ↔ ∀ t ∈ e.text, IsClean t := by
    cases e.text <;> simp [isClean_escapeText]
  simp only [List.forall_mem_map, isClean_escapeText, htext]

/-- What the protected elements of a tree have in common is what the elements have. -/
theorem all_protect {p q : Element → Prop} (h : ∀ e : Element, p e.protect ↔ q e) (e : Element) :
    e.protect.All p ↔ e.All q := by
  induction e using byChildren with | h e hc => ?_
  rw [all_iff, all_iff, h]
  refine and_congr_right fun _ => ?_
  rw [protect_eq, List.forall_mem_map]
  exact forall_congr' fun c => forall_congr' (hc c)

/-- No name in an element has a line feed, apart from its children. -/
def HasPlainNames (e : Element) : Prop :=
  '\n' ∉ e.name.toList ∧ ∀ a ∈ e.attributes.entries, '\n' ∉ a.1.toList

instance (e : Element) : Decidable e.HasPlainNames :=
  inferInstanceAs (Decidable (_ ∧ ∀ a ∈ e.attributes.entries, _))

theorem isPlain_attributeCalls {e : Element} (h : e.HasPlainNames) :
    ∀ c ∈ e.attributeCalls, c.IsPlain := by
  intro c hc
  obtain ⟨a, ha, rfl⟩ := List.mem_map.1 hc
  exact h.2 a ha

theorem isPlain_bracketed {e : Element} (h : e.HasPlainNames)
    (hc : ∀ x ∈ e.children, ∀ c ∈ x.calls, c.IsPlain) : ∀ c ∈ e.bracketed, c.IsPlain := by
  intro c hm
  simp only [bracketed, callsAll_eq_flatMap, List.mem_cons, List.mem_append, List.mem_map,
    List.mem_flatMap, List.not_mem_nil, or_false] at hm
  rcases hm with rfl | hm | ⟨t, -, rfl⟩ | ⟨x, hx, hm⟩ | rfl
  · exact h.1
  · exact isPlain_attributeCalls h c hm
  · trivial
  · exact hc x hx c hm
  · trivial

theorem isPlain_calls {e : Element} (h : e.All HasPlainNames) : ∀ c ∈ e.calls, c.IsPlain := by
  induction e using byChildren with | h e hc => ?_
  rw [all_iff] at h
  rw [calls_eq]
  split
  · rw [List.forall_mem_cons]
    exact ⟨h.1.1, isPlain_attributeCalls h.1⟩
  · exact isPlain_bracketed h.1 fun x hx => hc x hx (h.2 x hx)

end Markup.Element

namespace Fragment

open Markup

/-- The element of a fragment in which there are some elements. -/
def fragmentOf (es : List Element) : Element := ⟨fragmentElement, .empty, none, es⟩

/-- The calls that write a source of some elements. -/
def sourceCalls (ess : List (List Element)) : List Call :=
  [.startElement rootElement, .defaultNamespace namespaceUri,
    .declareNamespace utilityLabel utilityUri] ++
    ess.flatMap (fun es => (fragmentOf (es.map Element.protect)).bracketed) ++ [.endElement]

/-- A source of given elements comes down to its calls. -/
theorem source_elements (ess : List (List Element)) :
    source (Producer.fragments fragmentElement (ess.map .elements)) =
      .ofCalls (sourceCalls ess) := by
  have hwrapped (es : List Element) : (Producer.wrapped fragmentElement (.elements es)).mapCalls
      Call.escaped = .ofCalls (fragmentOf (es.map Element.protect)).bracketed := by
    have h : (fragmentOf es).bracketed.map Call.escaped =
        (fragmentOf (es.map Element.protect)).bracketed.map .ok := by
      rw [Element.map_escaped_bracketed fun c _ => Element.map_escaped_calls c, Element.protect_eq]
      rfl
    rw [← Script.mapCalls_ofCalls h]
    rw [Producer.wrapped, Producer.toScript, ← Script.ofCalls_append, ← Script.ofCalls_append]
    rfl
  have hfragments : (Producer.fragments fragmentElement (ess.map .elements)).mapCalls Call.escaped =
      .ofCalls (ess.flatMap fun es => (fragmentOf (es.map Element.protect)).bracketed) := by
    induction ess with
    | nil => rfl
    | cons es ess ih =>
      rw [List.map_cons, Producer.fragments, Script.mapCalls_andThen, hwrapped, ih,
        ← Script.ofCalls_append, List.flatMap_cons]
  rw [source, hfragments, ← Script.ofCalls_append, ← Script.ofCalls_append, sourceCalls,
    List.append_assoc]

theorem isBlankIndent_standardIndent : IsBlankIndent (some Document.standardIndent) := by
  intro i hi
  obtain rfl := Option.mem_some.1 hi
  exact List.all_eq_true.1 (by decide : Document.standardIndent.toList.all isSpace = true)

/-- The calls before the first fragment. -/
def sourceStart (encoding : String) : List Call :=
  [.startDocument "1.0" encoding, .startElement rootElement, .defaultNamespace namespaceUri,
    .declareNamespace utilityLabel utilityUri]

/-- A source is its start, its content, and its end. -/
theorem complete_source (encoding : String) (content : Script) :
    Document.complete encoding (source content) =
      (Script.ofCalls (sourceStart encoding)).andThen
        ((content.mapCalls Call.escaped).andThen (.ofCalls [.endElement, .endDocument])) := by
  rw [Document.complete, source, Script.andThen_assoc, Script.andThen_assoc,
    ← Script.ofCalls_append, ← Script.andThen_assoc, ← Script.ofCalls_append]
  rfl

/-- The calls before the content are taken, and lead into the root element. -/
theorem leads_sourceStart (indent : Option String) (encoding : String) :
    Leads (.fresh indent) (sourceStart encoding) True (·.level = 1) :=
  ⟨⟨fun _ => trivial, fun _ => ⟨rfl, rfl, rfl, rfl, trivial⟩⟩, fun _ => rfl⟩

/-- A source of given elements is accepted if all of them can be written. -/
theorem takes_sourceCalls (indent : Option String) (encoding : String) (ess : List (List Element)) :
    (Writer.fresh indent).Takes
        (.startDocument "1.0" encoding :: (sourceCalls ess ++ [.endDocument])) ↔
      ∀ es ∈ ess, ∀ e ∈ es, e.All Element.IsWritable := by
  have hfragment (es : List Element) :
      (fragmentOf (es.map Element.protect)).All Element.IsWritable ↔
        ∀ e ∈ es, e.All Element.IsWritable := by
    have hself : (fragmentOf (es.map Element.protect)).IsWritable :=
      ⟨(by decide : isName fragmentElement.toList = true), List.forall_mem_nil _,
        by simp [fragmentOf]⟩
    rw [Element.all_iff, and_iff_right hself, fragmentOf, List.forall_mem_map]
    simp only [Element.all_protect fun e => Element.isWritable_protect (e := e)]
  have hbracketed (es : List Element) (w : Writer) (hw : w.level = 0 + 1) :=
    (Element.leads_bracketed (e := fragmentOf (es.map Element.protect))
      (fun c _ => Element.leads_calls c) hw).congr (hfragment es)
  have hfragments (w : Writer) (hw : w.level = 1) : Leads w
      (ess.flatMap fun es => (fragmentOf (es.map Element.protect)).bracketed)
      (∀ es ∈ ess, ∀ e ∈ es, e.All Element.IsWritable) (·.level = 1) :=
    Leads.flatMap (fun es _ => hbracketed es) hw
  have hend (w : Writer) (_ : w.level = 0) : Leads w [.endDocument] True fun _ => True :=
    .one (by simp [Writer.step, w.endDocument_spec.1]) fun _ => trivial
  have h := (leads_sourceStart indent encoding).append fun w hw => (hfragments w hw).append
    fun w hw => (leads_endElement hw).append hend
  simpa [sourceStart, sourceCalls] using h.1

theorem isPlain_sourceCalls {ess : List (List Element)}
    (h : ∀ es ∈ ess, ∀ e ∈ es, e.All Element.HasPlainNames) :
    ∀ c ∈ sourceCalls ess, c.IsPlain := by
  have hprotect (e : Element) : e.protect.HasPlainNames ↔ e.HasPlainNames := by
    rw [Element.protect_eq, Element.HasPlainNames, Element.HasPlainNames, Table.map]
    simp only [List.forall_mem_map]
  have hfragment : ∀ es ∈ ess,
      ∀ c ∈ (fragmentOf (es.map Element.protect)).bracketed, c.IsPlain := by
    intro es hes
    refine Element.isPlain_bracketed
      ⟨(by decide : '\n' ∉ fragmentElement.toList), List.forall_mem_nil _⟩ ?_
    rw [fragmentOf, List.forall_mem_map]
    exact fun e he => Element.isPlain_calls ((Element.all_protect hprotect e).2 (h es hes e he))
  intro c hc
  rw [sourceCalls, List.mem_append, List.mem_append, List.mem_flatMap] at hc
  rcases hc with (hc | ⟨es, hes, hc⟩) | hc
  · simp only [List.mem_cons, List.not_mem_nil, or_false] at hc
    rcases hc with rfl | rfl | rfl
    · exact (by decide : '\n' ∉ rootElement.toList)
    · trivial
    · exact (by decide : '\n' ∉ utilityLabel.toList)
  · exact hfragment es hes c hc
  · rw [List.mem_singleton.1 hc]
    trivial

/-- The sketch of a source of given elements. -/
theorem calls_sourceCalls {indent : Option String} (hi : IsBlankIndent indent)
    (ess : List (List Element)) :
    ∃ content, Element.ReadAllAs (ess.map fun es => fragmentOf (es.map Element.protect))
        (dropSpace content) ∧
      Sketch.empty.calls indent
          (.startDocument "1.0" "utf-8" :: (sourceCalls ess ++ [.endDocument])) =
        some ⟨⟨some (declarationText "1.0" "utf-8"), [],
          some (⟨"Wix", [("xmlns", namespaceUri), ("xmlns:util", utilityUri)]⟩, content), [], []⟩,
          []⟩ := by
  let d : Draft := { Draft.empty with declaration := some (declarationText "1.0" "utf-8") }
  let root : Tag := ⟨"Wix", [("xmlns", namespaceUri), ("xmlns:util", utilityUri)]⟩
  have hstart : Sketch.empty.calls indent (sourceStart "utf-8") =
      some ⟨d.push root, [⟨false, false⟩]⟩ := rfl
  have hwrites : ∀ es ∈ ess, Element.Writes indent (fragmentOf (es.map Element.protect)).bracketed
      (fragmentOf (es.map Element.protect)) :=
    fun es _ => Element.writes_bracketed hi fun c _ => Element.writes_calls hi c
  obtain ⟨nodes, content, l, hnodes, hdrop, -, -, hfragments⟩ := Element.Writes.flatMap hi hwrites
    (s := ⟨d.push root, [⟨false, false⟩]⟩) (by simp [Draft.push]) rfl
  refine ⟨content ++ (Layout.endLead indent [l]).map .char, ?_, ?_⟩
  · rwa [hdrop, dropSpace_space (isSpace_of_mem_endLead hi), List.append_nil]
  · have hsplit : .startDocument "1.0" "utf-8" :: (sourceCalls ess ++ [.endDocument]) =
        sourceStart "utf-8" ++ ((ess.flatMap fun es =>
          (fragmentOf (es.map Element.protect)).bracketed) ++ [.endElement, .endDocument]) := by
      simp [sourceStart, sourceCalls]
    rw [hsplit, Sketch.calls_of_append hstart, Sketch.calls_of_append hfragments,
      Sketch.calls_of_cons (Sketch.call_endElement ..)]
    rfl

/-- When a source of given elements is rendered, and what is read of it: a root
    element with two namespaces, and in it a fragment for each producer, in which its
    elements are, with their literal dollars protected. -/
theorem render_elements {ess : List (List Element)}
    (h : ∀ es ∈ ess, ∀ e ∈ es, e.All Element.HasPlainNames) :
    ((∃ text, Document.render (some Document.standardIndent) Document.standardEncoding
        (source (Producer.fragments fragmentElement (ess.map .elements))) = .ok text) ↔
      ∀ es ∈ ess, ∀ e ∈ es, e.All Element.IsWritable) ∧
    ∀ text, Document.render (some Document.standardIndent) Document.standardEncoding
        (source (Producer.fragments fragmentElement (ess.map .elements))) = .ok text →
      ∃ content,
        read text = some ⟨some (declarationText "1.0" "utf-8"), [],
          some (⟨"Wix", [("xmlns", namespaceUri), ("xmlns:util", utilityUri)]⟩, content), []⟩ ∧
        Element.ReadAllAs (ess.map fun es => fragmentOf (es.map Element.protect))
          (dropSpace content) := by
  have hi := isBlankIndent_standardIndent
  rw [source_elements]
  simp only [Document.render_ofCalls, ← takes_sourceCalls (some Document.standardIndent)
    Document.standardEncoding]
  refine ⟨by simp, ?_⟩
  rintro text ⟨ht, rfl⟩
  -- The names are what they are read as, so the sketch of the calls is the one to be read.
  have hplain : ∀ c ∈ Call.startDocument "1.0" Document.standardEncoding ::
      (sourceCalls ess ++ [.endDocument]), c.IsPlain := by
    refine List.forall_mem_cons.2 ⟨⟨rfl, rfl⟩, List.forall_mem_append.2 ⟨isPlain_sourceCalls h, ?_⟩⟩
    exact fun c hc => List.mem_singleton.1 hc ▸ trivial
  have hfirst : ∀ c ∈ .startDocument "1.0" Document.standardEncoding :: sourceCalls ess,
      c.MayComeFirst := fun c hc => (hplain c (List.mem_append_left _ hc)).mayComeFirst
  obtain ⟨s, hs, -, -, hr⟩ := read_output hi hfirst
  obtain ⟨content, hcontent, hcalls⟩ := calls_sourceCalls hi ess
  rw [List.cons_append] at hs hr
  rw [ht.accepted, Sketch.calls_map_asRead hplain] at hs
  obtain rfl := Option.some.inj (hcalls.symm.trans hs)
  exact ⟨content, hr, hcontent⟩

theorem render_elements_of_mixed_content :
    let inner : Element := ⟨"b", .empty, none, []⟩
    let outer : Element := ⟨"a", .ofList [("x", "$<")], some "$(v", [inner, inner]⟩
    let ess : List (List Element) := [[outer, inner], [], [outer]]
    (∀ es ∈ ess, ∀ e ∈ es, e.All Element.HasPlainNames) ∧
    ∃ text content, Document.render (some Document.standardIndent) Document.standardEncoding
        (source (Producer.fragments fragmentElement (ess.map .elements))) = .ok text ∧
      read text = some ⟨some (declarationText "1.0" "utf-8"), [],
        some (⟨"Wix", [("xmlns", namespaceUri), ("xmlns:util", utilityUri)]⟩, content), []⟩ ∧
      Element.ReadAllAs (ess.map fun es => fragmentOf (es.map Element.protect))
        (dropSpace content) := by
  intro inner outer ess
  have hall {p : Element → Prop} (hi : p inner) (ho : p outer) : ∀ es ∈ ess, ∀ e ∈ es, e.All p := by
    have hinner : inner.All p := .intro hi (List.forall_mem_nil _)
    have houter : outer.All p := .intro ho (by simp [outer, hinner])
    simp [ess, hinner, houter]
  have hplain := hall (p := Element.HasPlainNames) (by decide) (by decide)
  have hwritable := hall (p := Element.IsWritable) (by decide) (by decide)
  obtain ⟨hrender, hread⟩ := render_elements hplain
  obtain ⟨text, ht⟩ := hrender.2 hwritable
  obtain ⟨content, hcontent⟩ := hread text ht
  exact ⟨hplain, text, content, ht, hcontent⟩

end Fragment

end InstallerKit
