import InstallerKit.Proofs.Markup.Layout
import Mathlib.Data.List.Forall2

/-!
# Line breaks

What a writer writes is a sequence of *parts*: the start of a start tag, an attribute, a
text, an end tag, and so on. The indent decides neither what the parts are, nor which
calls are refused, nor what state a writer is in. It only makes the writer go to a new
line before some parts. Where it does is decided by the parts written before, which
say what elements are open, and whether there are children and texts in them so far.

* `isUniform_step`: a call, on all writers that differ in the indent only;
* `IsTextBelow.directText_eq`: there are no line breaks in an element after a text;
* `Writer.exists_areUniform`: a run of calls, on all writers that differ in the indent only;
* `Writer.output_indent`: what is written with an indent, and without one.
-/

namespace InstallerKit.Markup

theorem Reply.andThen_assoc (p : Reply) (f g : Writer → Reply) :
    (p.andThen f).andThen g = p.andThen fun w => (f w).andThen g := by
  obtain ⟨w, cs, e⟩ := p
  cases e with
  | some e => rfl
  | none =>
    cases h : (f w).error <;> simp [andThen, h]

/-! ### Parts -/

/-- A part of a document, as a writer writes it. -/
inductive Part
  | declaration (version encoding : String)
  /-- A line feed between the nodes of the top level. -/
  | topBreak
  /-- The start of a start tag. -/
  | start (name : String)
  | attribute (name : String) (value : List Char)
  /-- The end of a start tag. -/
  | close
  /-- The end of the tag of an empty element. -/
  | closeEmpty
  | endTag (name : String)
  | characters (text : List Char)
  | cdata (text : List Char)
  | comment (text : String)
  | instruction (target data : String)
  deriving DecidableEq, Repr

namespace Part

def spell : Part → List Char
  | declaration version encoding =>
    "<?xml version=\"".toList ++ version.toList ++ "\" encoding=\"".toList ++ encoding.toList ++
      "\"?>".toList
  | topBreak => ['\n']
  | start name => '<' :: name.toList
  | .attribute name value => ' ' :: name.toList ++ "=\"".toList ++ encodeAttribute value ++ ['"']
  | close => ">".toList
  | closeEmpty => "/>".toList
  | endTag name => "</".toList ++ name.toList ++ ['>']
  | characters text => encodeText text
  | cdata text => "<![CDATA[".toList ++ encodeCdata text ++ "]]>".toList
  | comment text => "<!--".toList ++ text.toList ++ "-->".toList
  | instruction target data =>
    "<?".toList ++ target.toList ++ (if data = "" then [] else ' ' :: data.toList) ++ "?>".toList

/-- Whether a child node of the innermost element begins with a part. A text is none. -/
def isChild : Part → Bool
  | start _ | comment _ | instruction .. => true
  | _ => false

def isEndTag : Part → Bool
  | endTag _ => true
  | _ => false

/-- Whether a part ends others or separates them. What it ends has been asked for before,
    and the call that writes it may ask for something else. -/
def isEnd : Part → Bool
  | topBreak | close | closeEmpty | endTag _ => true
  | _ => false

/-- What a part makes of the open elements. -/
def after (ls : List Layout) : Part → List Layout
  | start _ => ⟨false, false⟩ :: Layout.child ls
  | closeEmpty | endTag _ => ls.tail
  | characters _ | cdata _ => Layout.text ls
  | comment _ | instruction .. => Layout.child ls
  | _ => ls

/-- The number of elements that are open in an element after a part, if there were `k`
    before; none if the part ends the element itself. -/
def within (k : Nat) : Part → Option Nat
  | start _ => some (k + 1)
  | closeEmpty | endTag _ => if k = 0 then none else some (k - 1)
  | _ => some k

/-- The text that a part stands for. -/
def data : Part → List Char
  | characters text | cdata text => text
  | _ => []

/-- The depth that the line break before a part is indented to, if there is to be one. -/
def lead : List Layout → Part → Option Nat
  | [], _ => none
  | l :: rest, p =>
    if l.hasText then none
    else if p.isChild then some (rest.length + 1)
    else if p.isEndTag && l.hasChildren then some rest.length
    else none

end Part

/-- The part that a call asks for. -/
def Call.part? : Call → Option Part
  | .startDocument version encoding => some (.declaration version encoding)
  | .startElement name | .emptyElement name => some (.start name.display)
  | .defaultNamespace uri => some (.attribute "xmlns" uri.display.toList)
  | .declareNamespace label uri => some (.attribute (namespaceName label) uri.display.toList)
  | .attribute name value => some (.attribute name.display value.display.toList)
  | .characters text => some (.characters text.toList)
  | .characterSlice buffer start length =>
    some (.characters (buffer.sliceText start length).toList)
  | .cdata text => some (.cdata text.toList)
  | .comment text => some (.comment text)
  | .instruction target data => some (.instruction target (data.getD ""))
  | .endDocument | .endElement | .flush => none

/-- A part is what has been asked for, or ends or separates others. -/
def Part.IsFor (p : Part) (asked : Option Part) : Prop :=
  p.isEnd = true ∨ asked = some p

/-- A part with the depth of the line break before it. -/
structure Piece where
  lead : Option Nat
  part : Part
  deriving DecidableEq, Repr

namespace Piece

variable (indent : Option String)

/-- The line break before a piece: a line feed, and as many copies of the indent as the depth
    says. Without an indent there is none. -/
def leadText (p : Piece) : List Char :=
  match indent, p.lead with
  | some i, some d => '\n' :: (List.replicate d i.toList).flatten
  | _, _ => []

def spell (p : Piece) : List Char :=
  p.leadText indent ++ p.part.spell

end Piece

/-- Parts with the line breaks that are due before them. -/
def pieces : List Layout → List Part → List Piece
  | _, [] => []
  | ls, p :: ps => ⟨p.lead ls, p⟩ :: pieces (p.after ls) ps

/-- What is written for some parts. -/
def layOut (indent : Option String) (ls : List Layout) (ps : List Part) : List Char :=
  (pieces ls ps).flatMap (Piece.spell indent)

theorem pieces_append (ls : List Layout) (ps qs : List Part) :
    pieces ls (ps ++ qs) = pieces ls ps ++ pieces (ps.foldl Part.after ls) qs := by
  induction ps generalizing ls with
  | nil => rfl
  | cons p ps ih => rw [List.cons_append, pieces, ih, pieces, List.cons_append, List.foldl_cons]

theorem map_part_pieces (ls : List Layout) (ps : List Part) :
    (pieces ls ps).map Piece.part = ps := by
  induction ps generalizing ls with
  | nil => rfl
  | cons p ps ih => rw [pieces, List.map_cons, ih]

section LayOut

variable (indent : Option String) (ls : List Layout) {p : Part}

@[simp] theorem layOut_nil : layOut indent ls [] = [] := rfl

theorem layOut_append (ps qs : List Part) :
    layOut indent ls (ps ++ qs) =
      layOut indent ls ps ++ layOut indent (ps.foldl Part.after ls) qs := by
  rw [layOut, pieces_append, List.flatMap_append, layOut, layOut]

theorem layOut_singleton : layOut indent ls [p] = (⟨p.lead ls, p⟩ : Piece).spell indent :=
  List.append_nil _

theorem layOut_plain (hchild : p.isChild = false) (hend : p.isEndTag = false) :
    layOut indent ls [p] = p.spell := by
  have hlead : p.lead ls = none := by cases ls <;> simp [Part.lead, hchild, hend]
  rw [layOut_singleton, hlead]
  cases indent <;> rfl

theorem layOut_child (h : p.isChild = true) :
    layOut indent ls [p] = Layout.lead indent ls ++ p.spell := by
  rw [layOut_singleton]
  cases ls with
  | nil => cases indent <;> rfl
  | cons l ls => cases indent <;> cases ht : l.hasText <;>
      simp [Piece.spell, Piece.leadText, Part.lead, Layout.lead, Writer.lineBreak, h, ht]

theorem layOut_endTag (name : String) :
    layOut indent ls [.endTag name] = Layout.endLead indent ls ++ (Part.endTag name).spell := by
  rw [layOut_singleton]
  cases ls with
  | nil => cases indent <;> rfl
  | cons l ls => cases indent <;> cases hc : l.hasChildren <;> cases ht : l.hasText <;>
      simp [Piece.spell, Piece.leadText, Part.lead, Part.isChild, Part.isEndTag, Layout.endLead,
        Writer.lineBreak, hc, ht]

end LayOut

/-! ### Line breaks within an element -/

/-- The text directly in an element, with the line breaks there. The pieces are those after
    the name in its start tag; `k` elements are open in it. -/
def directText (indent : Option String) : (k : Nat) → List Piece → List Char
  | _, [] => []
  | k, p :: ps =>
    (if k = 0 then p.leadText indent ++ p.part.data else []) ++
      match p.part.within k with
      | none => []
      | some k => directText indent k ps

/-- Whether a text comes first in an element. The pieces are those after the name in its
    start tag. -/
def startsWithText : List Piece → Bool
  | [] => false
  | p :: ps =>
    match p.part with
    | .attribute .. | .close => startsWithText ps
    | .characters _ | .cdata _ => true
    | _ => false

/-- There is no line break before a part in an element with text. -/
theorem lead_of_hasText {l : Layout} (h : l.hasText = true) (ls : List Layout) (p : Part) :
    p.lead (l :: ls) = none := if_pos h

/-- An element with text is open below `k` others. -/
def IsTextBelow (k : Nat) (outer ls : List Layout) : Prop :=
  ∃ inner l, ls = inner ++ l :: outer ∧ inner.length = k ∧ l.hasText = true

section IsTextBelow

variable {k : Nat} {outer ls : List Layout} (h : IsTextBelow k outer ls)
include h

theorem IsTextBelow.child : IsTextBelow k outer (Layout.child ls) := by
  obtain ⟨inner, l, rfl, rfl, hl⟩ := h
  cases inner with
  | nil => exact ⟨[], _, rfl, rfl, hl⟩
  | cons x inner => exact ⟨_ :: inner, l, rfl, rfl, hl⟩

theorem IsTextBelow.text : IsTextBelow k outer (Layout.text ls) := by
  obtain ⟨inner, l, rfl, rfl, hl⟩ := h
  cases inner with
  | nil => exact ⟨[], _, rfl, rfl, rfl⟩
  | cons x inner => exact ⟨_ :: inner, l, rfl, rfl, hl⟩

theorem IsTextBelow.push (x : Layout) : IsTextBelow (k + 1) outer (x :: ls) := by
  obtain ⟨inner, l, rfl, rfl, hl⟩ := h
  exact ⟨x :: inner, l, rfl, rfl, hl⟩

theorem IsTextBelow.pop (hk : k ≠ 0) : IsTextBelow (k - 1) outer ls.tail := by
  obtain ⟨inner, l, rfl, rfl, hl⟩ := h
  cases inner with
  | nil => exact absurd rfl hk
  | cons x inner => exact ⟨inner, l, rfl, rfl, hl⟩

/-- An element with text has text until it ends. -/
theorem IsTextBelow.after {p : Part} {n : Nat} (hp : p.within k = some n) :
    IsTextBelow n outer (p.after ls) := by
  have hends (hk : (if k = 0 then none else some (k - 1)) = some n) :
      IsTextBelow n outer ls.tail := by
    split at hk
    · cases hk
    · next hne =>
      obtain rfl := Option.some.inj hk
      exact h.pop hne
  cases p with
  | start name =>
    obtain rfl := Option.some.inj hp
    exact h.child.push _
  | closeEmpty => exact hends hp
  | endTag name => exact hends hp
  | characters text =>
    obtain rfl := Option.some.inj hp
    exact h.text
  | cdata text =>
    obtain rfl := Option.some.inj hp
    exact h.text
  | comment text =>
    obtain rfl := Option.some.inj hp
    exact h.child
  | instruction target data =>
    obtain rfl := Option.some.inj hp
    exact h.child
  | _ =>
    obtain rfl := Option.some.inj hp
    exact h

/-- There are no line breaks in an element after a text. -/
theorem IsTextBelow.directText_eq (indent : Option String) (ps : List Part) :
    directText indent k (pieces ls ps) = directText none k (pieces ls ps) := by
  induction ps generalizing k ls with
  | nil => rfl
  | cons p ps ih =>
    have hlead : k = 0 → (⟨p.lead ls, p⟩ : Piece).leadText indent = [] := by
      rintro rfl
      obtain ⟨inner, l, rfl, hlen, hl⟩ := h
      obtain rfl := List.eq_nil_of_length_eq_zero hlen
      rw [List.nil_append, lead_of_hasText hl]
      cases indent <;> rfl
    rw [pieces, directText, directText]
    congr 1
    · -- What is inside of a child is no text of the element itself.
      split
      · next hk =>
        rw [hlead hk]
        rfl
      · rfl
    · cases hp : p.within k with
      | none => rfl
      | some n => exact ih (h.after hp)

end IsTextBelow

/-- There are no line breaks in an element that starts with a text. -/
theorem directText_of_startsWithText (indent : Option String) {ps : List Part} {l : Layout}
    {outer : List Layout} (h : startsWithText (pieces (l :: outer) ps) = true) :
    directText indent 0 (pieces (l :: outer) ps) = directText none 0 (pieces (l :: outer) ps) := by
  induction ps with
  | nil => cases h
  | cons p ps ih =>
    have hcons (hchild : p.isChild = false) (hend : p.isEndTag = false)
        (hp : p.within 0 = some 0) (i : Option String) :
        directText i 0 (pieces (l :: outer) (p :: ps)) =
          p.data ++ directText i 0 (pieces (p.after (l :: outer)) ps) := by
      have hnone : p.lead (l :: outer) = none := by simp [Part.lead, hchild, hend]
      rw [pieces, directText, hnone, hp, if_pos rfl]
      cases i <;> rfl
    -- Only attributes and the end of the start tag come before the first text.
    have htext : IsTextBelow 0 outer (Layout.text (l :: outer)) := ⟨[], _, rfl, rfl, rfl⟩
    cases p with
    | «attribute» name value =>
      rw [hcons rfl rfl rfl, hcons rfl rfl rfl]
      exact congrArg _ (ih h)
    | close =>
      rw [hcons rfl rfl rfl, hcons rfl rfl rfl]
      exact congrArg _ (ih h)
    | characters text =>
      rw [hcons rfl rfl rfl, hcons rfl rfl rfl]
      exact congrArg _ (htext.directText_eq indent ps)
    | cdata text =>
      rw [hcons rfl rfl rfl, hcons rfl rfl rfl]
      exact congrArg _ (htext.directText_eq indent ps)
    | _ => cases h

/-! ### Calls on writers with different indents -/

namespace Writer

/-- The writer with another indent. -/
def withIndent (w : Writer) (indent : Option String) : Writer := { w with indent }

section WithIndent

variable (w : Writer) (indent : Option String)

@[simp] theorem stack_withIndent : (w.withIndent indent).stack = w.stack := rfl

@[simp] theorem pending_withIndent : (w.withIndent indent).pending = w.pending := rfl

@[simp] theorem started_withIndent : (w.withIndent indent).started = w.started := rfl

@[simp] theorem rootClosed_withIndent : (w.withIndent indent).rootClosed = w.rootClosed := rfl

end WithIndent

/-- The layout of the open elements. -/
def layouts (w : Writer) : List Layout := w.stack.map OpenElement.layout

end Writer

/-- Replies by writers that differ in their indents: they are the same but for the indent,
    and what is written is parts for what has been asked for, with the line breaks that
    are due. -/
def IsUniform (ls : List Layout) (asked : Option Part) (p : Option String → Reply) : Prop :=
  ∃ (v : Writer) (ps : List Part) (e : Option Error), v.layouts = ps.foldl Part.after ls ∧
    (∀ x ∈ ps, x.IsFor asked) ∧ ∀ i, p i = ⟨v.withIndent i, layOut i ls ps, e⟩

section Uniform

variable {ls : List Layout} {asked : Option Part}

theorem isUniform_ok (v : Writer) (ps : List Part) (hps : ∀ x ∈ ps, x.IsFor asked)
    (hv : v.layouts = ps.foldl Part.after ls) {p : Option String → Reply}
    (hp : ∀ i, p i = .ok (v.withIndent i) (layOut i ls ps)) : IsUniform ls asked p :=
  ⟨v, ps, none, hv, hps, hp⟩

/-- There is no line break before a part that is neither a child node nor an end tag. -/
theorem isUniform_plain (v : Writer) (p : Part) (hchild : p.isChild = false)
    (hend : p.isEndTag = false) (hp : p.IsFor asked) (hv : v.layouts = p.after ls)
    {q : Option String → Reply} (hq : ∀ i, q i = .ok (v.withIndent i) p.spell) :
    IsUniform ls asked q :=
  isUniform_ok v [p] (by simpa using hp) hv fun i => by rw [hq, layOut_plain i ls hchild hend]

theorem isUniform_nothing (w : Writer) :
    IsUniform w.layouts asked fun i => .ok (w.withIndent i) [] :=
  isUniform_ok w [] (by simp) rfl fun _ => rfl

theorem isUniform_refuse (w : Writer) (e : Error) :
    IsUniform w.layouts asked fun i => .refuse (w.withIndent i) e :=
  ⟨w, [], some e, rfl, by simp, fun _ => rfl⟩

theorem IsUniform.andThen {p : Option String → Reply} {next : Writer → Reply}
    (hp : IsUniform ls asked p)
    (hnext : ∀ v : Writer, IsUniform v.layouts asked fun i => next (v.withIndent i)) :
    IsUniform ls asked fun i => (p i).andThen next := by
  obtain ⟨v, ps, e, hv, hps, hp⟩ := hp
  cases e with
  | some e => exact ⟨v, ps, some e, hv, hps, fun i => by simp only [hp, Reply.andThen]⟩
  | none =>
    -- The second reply starts from the layout that the parts of the first one lead to.
    obtain ⟨u, qs, e, hu, hqs, hnext⟩ := hnext v
    rw [hv] at hu hnext
    refine ⟨u, ps ++ qs, e, by rw [hu, List.foldl_append], List.forall_mem_append.2 ⟨hps, hqs⟩,
      fun i => ?_⟩
    simp only [hp, Reply.andThen, hnext, layOut_append]

variable (w : Writer)

theorem isUniform_closeTag : IsUniform w.layouts asked fun i => (w.withIndent i).closeTag := by
  by_cases hp : w.pending = true
  · cases hs : w.stack with
    | nil =>
      refine isUniform_ok { w with pending := false } [] (by simp) rfl fun i => ?_
      simp [Writer.closeTag, Writer.withIndent, hp, hs]
    | cons e es =>
      by_cases he : e.isEmpty = true
      · refine isUniform_plain { w with pending := false }.pop .closeEmpty rfl rfl (.inl rfl) ?_
          fun i => ?_
        · simp [Writer.layouts, Writer.pop, hs, Part.after]
        · have hspell : Part.closeEmpty.spell = "/>".toList := rfl
          simp [Writer.closeTag, Writer.withIndent, Writer.pop, hspell, hp, hs, he]
      · refine isUniform_plain { w with pending := false } .close rfl rfl (.inl rfl) rfl fun i => ?_
        have hspell : Part.close.spell = ">".toList := rfl
        simp [Writer.closeTag, Writer.withIndent, hspell, hp, hs, he]
  · refine isUniform_ok w [] (by simp) rfl fun i => ?_
    simp [Writer.closeTag, Writer.withIndent, hp]

/-- A child node is written where the layout wants it. -/
theorem isUniform_node {p : Part} (hp : p.isChild = true) {f : Writer → Writer}
    (hf : ∀ v i, f (Writer.withIndent v i) = (f v).withIndent i)
    (hafter : ∀ v ls, v.layouts = Layout.child ls → (f v).layouts = p.after ls) :
    IsUniform w.layouts (some p) fun i =>
      (w.withIndent i).beforeNode.andThen fun v => .ok (f v) p.spell := by
  simp only [Writer.beforeNode, Reply.andThen_assoc]
  refine (isUniform_closeTag w).andThen fun v => ?_
  cases hs : v.stack with
  | nil =>
    have hv : v.layouts = [] := by rw [Writer.layouts, hs, List.map_nil]
    have hf' := hafter { v with started := true } [] hv
    cases ht : v.started with
    | false =>
      refine isUniform_ok (f { v with started := true }) [p] (by simp [Part.IsFor])
        (by rw [hf', hv]; rfl) fun i => ?_
      rw [layOut_child i _ hp, hv, ← hf]
      simp [Writer.withIndent, hs, ht, Reply.andThen, Reply.ok, Layout.lead]
    | true =>
      refine isUniform_ok (f { v with started := true }) [.topBreak, p]
        (by simp [Part.IsFor, Part.isEnd]) (by rw [hf', hv]; rfl) fun i => ?_
      have hlayOut : layOut i [] [.topBreak, p] = '\n' :: p.spell := by
        rw [← List.singleton_append, layOut_append, layOut_child i _ hp,
          layOut_plain i [] rfl rfl]
        rfl
      rw [hv, hlayOut, ← hf]
      simp [Writer.withIndent, hs, ht, Reply.andThen, Reply.ok]
  | cons e es =>
    have hv : v.layouts = e.layout :: es.map OpenElement.layout := by
      rw [Writer.layouts, hs, List.map_cons]
    have hf' := hafter { v with started := true, stack := { e with hasChildren := true } :: es }
      v.layouts (by rw [hv]; rfl)
    refine isUniform_ok _ [p] (by simp [Part.IsFor]) hf' fun i => ?_
    rw [layOut_child i _ hp, hv, ← hf]
    cases i <;> simp [Writer.withIndent, Writer.mapTop, Writer.depth, hs, Reply.andThen, Reply.ok,
      Layout.lead, OpenElement.layout]

theorem layOut_endTags (i : Option String) (es : List OpenElement) :
    layOut i (es.map OpenElement.layout) (es.map fun e => .endTag e.name) =
      Writer.endTags i es := by
  induction es with
  | nil => rfl
  | cons e es ih =>
    have happ := layOut_append i ((e :: es).map OpenElement.layout) [.endTag e.name]
      (es.map fun e => .endTag e.name)
    rw [layOut_endTag] at happ
    rw [Writer.endTags, Writer.endTag_eq, ← ih]
    exact happ

theorem foldl_after_endTags (ls : List Layout) (es : List OpenElement) :
    (es.map fun e => Part.endTag e.name).foldl Part.after ls = ls.drop es.length := by
  induction es generalizing ls with
  | nil => rfl
  | cons e es ih =>
    rw [List.map_cons, List.foldl_cons, ih, List.length_cons, Part.after, List.drop_tail]

theorem isUniform_startDocument (version encoding : String) :
    IsUniform w.layouts (Call.startDocument version encoding).part?
      fun i => (w.withIndent i).startDocument version encoding := by
  cases hs : w.started with
  | true =>
    simp only [Writer.startDocument, Writer.started_withIndent, hs, if_true]
    exact isUniform_refuse w _
  | false =>
    simp only [Writer.startDocument, Writer.started_withIndent, hs, Bool.false_eq_true, if_false]
    exact isUniform_plain { w with started := true } (.declaration version encoding) rfl rfl
      (.inr rfl) rfl fun i => rfl

theorem isUniform_endDocument :
    IsUniform w.layouts asked fun i => (w.withIndent i).endDocument := by
  refine (isUniform_closeTag w).andThen fun v => ?_
  have hnone : (v.stack.map fun e => Part.endTag e.name).foldl Part.after v.layouts = [] := by
    rw [foldl_after_endTags, Writer.layouts, List.drop_of_length_le (by simp)]
  refine isUniform_ok { v with stack := [], rootClosed := v.rootClosed || !v.stack.isEmpty }
    ((v.stack.map fun e => .endTag e.name) ++ if v.started then [.topBreak] else []) ?_ ?_
    fun i => ?_
  · refine List.forall_mem_append.2 ⟨?_, ?_⟩
    · rintro x hx
      obtain ⟨e, -, rfl⟩ := List.mem_map.1 hx
      exact .inl rfl
    · split <;> simp [Part.IsFor, Part.isEnd]
  · rw [List.foldl_append, hnone]
    split <;> rfl
  · have hend : layOut i v.layouts (v.stack.map fun e => .endTag e.name) =
        Writer.endTags i v.stack := layOut_endTags i v.stack
    have hbreak : layOut i [] (if v.started then [.topBreak] else []) =
        if v.started then ['\n'] else [] := by
      split
      · exact layOut_plain i [] rfl rfl
      · rfl
    rw [layOut_append, hend, hnone, hbreak]
    rfl

theorem isUniform_closeElement :
    IsUniform w.layouts asked fun i => (w.withIndent i).closeElement := by
  cases hs : w.stack with
  | nil =>
    simp only [Writer.closeElement, Writer.stack_withIndent, hs]
    exact isUniform_refuse w _
  | cons e es =>
    have hw : w.layouts = (e :: es).map OpenElement.layout := by rw [Writer.layouts, hs]
    simp only [Writer.closeElement, Writer.stack_withIndent, hs]
    refine isUniform_ok w.pop [.endTag e.name] (by simp [Part.IsFor, Part.isEnd]) ?_ fun i => ?_
    · rw [Writer.layouts, Writer.pop, hw, hs]
      rfl
    · rw [layOut_endTag, hw]
      exact congrArg (Reply.ok _) (Writer.endTag_eq i e es)

theorem isUniform_endElement :
    IsUniform w.layouts asked fun i => (w.withIndent i).endElement := by
  have hclose : IsUniform w.layouts asked fun i =>
      (w.withIndent i).closeTag.andThen Writer.closeElement :=
    (isUniform_closeTag w).andThen isUniform_closeElement
  cases hs : w.stack with
  | nil =>
    simp only [Writer.endElement, Writer.stack_withIndent, hs]
    exact hclose
  | cons e es =>
    simp only [Writer.endElement, Writer.stack_withIndent, Writer.pending_withIndent, hs]
    split
    · refine isUniform_plain { w with pending := false }.pop .closeEmpty rfl rfl (.inl rfl) ?_
          fun i => ?_
      · rw [Writer.layouts, Writer.layouts, Writer.pop, List.map_tail]
        rfl
      · rw [Writer.pop, hs]
        rfl
    · exact hclose

theorem isUniform_openElement (name : Datum) (isEmpty : Bool) :
    IsUniform w.layouts (some (.start name.display))
      fun i => (w.withIndent i).openElement name isEmpty := by
  unfold Writer.openElement
  split
  · next s =>
    split
    · refine (isUniform_closeTag w).andThen fun v => ?_
      simp only [Writer.stack_withIndent, Writer.rootClosed_withIndent]
      by_cases hroot : (v.stack.isEmpty && v.rootClosed) = true
      · simp only [hroot, if_true]
        exact isUniform_refuse v _
      · simp only [hroot]
        let push (u : Writer) : Writer :=
          { u with stack := ⟨s, isEmpty, false, false, []⟩ :: u.stack, pending := true }
        refine isUniform_node v (p := .start s) rfl (f := push) (fun _ _ => rfl) fun u ls hu => ?_
        rw [Part.after, ← hu]
        rfl
    · exact isUniform_refuse w _
  · exact isUniform_refuse w _

theorem isUniform_addAttribute (name value : Datum) :
    IsUniform w.layouts (some (.attribute name.display value.display.toList))
      fun i => (w.withIndent i).addAttribute name value := by
  unfold Writer.addAttribute
  simp only [Writer.stack_withIndent, Writer.pending_withIndent]
  split
  · next e es hp hs =>
    split
    · next s =>
      split
      · exact isUniform_refuse w _
      split
      · exact isUniform_refuse w _
      split
      · exact isUniform_refuse w _
      · refine isUniform_plain (w.mapTop fun e => { e with attributes := e.attributes ++ [s] })
          (.attribute s value.display.toList) rfl rfl (.inr rfl) ?_ fun i => rfl
        rw [Writer.layouts, Writer.layouts, Writer.mapTop, hs]
        rfl
    · exact isUniform_refuse w _
  · exact isUniform_refuse w _

/-- A text is written in the innermost element. -/
theorem layouts_mapTop_hasText (w : Writer) :
    (w.mapTop fun e => { e with hasText := true }).layouts = Layout.text w.layouts := by
  rw [Writer.layouts, Writer.layouts, Writer.mapTop]
  cases w.stack <;> rfl

theorem isUniform_characters (text : String) :
    IsUniform w.layouts (some (.characters text.toList))
      fun i => (w.withIndent i).characters text := by
  unfold Writer.characters
  split
  · exact isUniform_nothing w
  refine (isUniform_closeTag w).andThen fun v => ?_
  simp only [Writer.stack_withIndent]
  split
  · split
    · exact isUniform_nothing v
    · exact isUniform_refuse v _
  split
  · exact isUniform_refuse v _
  · exact isUniform_plain (v.mapTop fun e => { e with hasText := true })
      (.characters text.toList) rfl rfl (.inr rfl) (layouts_mapTop_hasText v) fun i => rfl

theorem isUniform_cdata (text : String) :
    IsUniform w.layouts (some (.cdata text.toList)) fun i => (w.withIndent i).cdata text := by
  unfold Writer.cdata
  split
  · exact isUniform_refuse w _
  refine (isUniform_closeTag w).andThen fun v => ?_
  simp only [Writer.stack_withIndent]
  split
  · exact isUniform_refuse v _
  · exact isUniform_plain (v.mapTop fun e => { e with hasText := true }) (.cdata text.toList) rfl
      rfl (.inr rfl) (layouts_mapTop_hasText v) fun i => rfl

theorem isUniform_comment (text : String) :
    IsUniform w.layouts (some (.comment text)) fun i => (w.withIndent i).comment text := by
  unfold Writer.comment
  split
  · exact isUniform_refuse w _
  split
  · exact isUniform_refuse w _
  · exact isUniform_node w (p := .comment text) rfl (f := id) (fun _ _ => rfl) fun _ _ h => h

theorem isUniform_instruction (target : String) (data : Option String) :
    IsUniform w.layouts (some (.instruction target (data.getD "")))
      fun i => (w.withIndent i).instruction target data := by
  unfold Writer.instruction
  simp only
  split
  · exact isUniform_refuse w _
  split
  · exact isUniform_refuse w _
  split
  · exact isUniform_refuse w _
  · exact isUniform_node w (p := .instruction target (data.getD "")) rfl (f := id)
      (fun _ _ => rfl) fun _ _ h => h

/-- A call has the same answer whatever the indent is, but for the line breaks. -/
theorem isUniform_step (c : Call) :
    IsUniform w.layouts c.part? fun i => (w.withIndent i).step c := by
  cases c with
  | startDocument version encoding => exact isUniform_startDocument w version encoding
  | endDocument => exact isUniform_endDocument w
  | startElement name => exact isUniform_openElement w name false
  | emptyElement name => exact isUniform_openElement w name true
  | endElement => exact isUniform_endElement w
  | defaultNamespace uri => exact isUniform_addAttribute w "xmlns" uri
  | declareNamespace label uri =>
    simp only [Writer.step, Writer.declareNamespace_eq]
    exact isUniform_addAttribute w (.text (namespaceName label)) uri
  | «attribute» name value => exact isUniform_addAttribute w name value
  | characters text => exact isUniform_characters w text
  | characterSlice buffer start length => exact isUniform_characters w _
  | cdata text => exact isUniform_cdata w text
  | comment text => exact isUniform_comment w text
  | instruction target data => exact isUniform_instruction w target data
  | flush => exact isUniform_nothing w

end Uniform

/-! ### Runs -/

/-- A piece is the part at its place, with the line break that is due after the parts
    before. -/
theorem exists_of_pieces_eq {ls : List Layout} {parts : List Part} {before after : List Piece}
    {x : Piece} (h : pieces ls parts = before ++ x :: after) :
    ∃ ps p qs, parts = ps ++ p :: qs ∧ before = pieces ls ps ∧
      x = ⟨p.lead (ps.foldl Part.after ls), p⟩ ∧
      after = pieces (p.after (ps.foldl Part.after ls)) qs := by
  induction parts generalizing ls before with
  | nil => simp [pieces] at h
  | cons q parts ih =>
    rw [pieces] at h
    cases before with
    | nil =>
      obtain ⟨rfl, rfl⟩ := List.cons.inj h
      exact ⟨[], q, parts, rfl, rfl, rfl, rfl⟩
    | cons y before =>
      obtain ⟨rfl, hrest⟩ := List.cons.inj h
      obtain ⟨ps, p, qs, rfl, rfl, hx, hafter⟩ := ih hrest
      exact ⟨q :: ps, p, qs, rfl, rfl, hx, hafter⟩

/-- The open elements after some pieces. -/
def openAfter (ps : List Piece) : List Layout :=
  (ps.map Piece.part).foldl Part.after []

/-- Each line break stands in an element without a text so far. It is before a child node
    and indented to the depth of this node, or it is before the end tag of an element that
    has children, and indented to the depth of this element. -/
def AreBrokenWhereDue (ps : List Piece) : Prop :=
  ∀ before d p after, ps = before ++ ⟨some d, p⟩ :: after →
    ∃ l outer, openAfter before = l :: outer ∧ l.hasText = false ∧
      (p.isChild = true ∧ d = outer.length + 1 ∨
        p.isEndTag = true ∧ l.hasChildren = true ∧ d = outer.length)

theorem areBrokenWhereDue_pieces (parts : List Part) : AreBrokenWhereDue (pieces [] parts) := by
  intro before d p after h
  obtain ⟨ps, q, qs, rfl, rfl, hq, -⟩ := exists_of_pieces_eq h
  obtain ⟨hlead, rfl⟩ := Piece.mk.inj hq
  rw [openAfter, map_part_pieces]
  cases hs : ps.foldl Part.after [] with
  | nil => simp [hs, Part.lead] at hlead
  | cons l outer =>
    rw [hs, Part.lead] at hlead
    refine ⟨l, outer, rfl, ?_⟩
    split at hlead
    · cases hlead
    next ht =>
    split at hlead
    · next hchild =>
      exact ⟨by simpa using ht, .inl ⟨hchild, Option.some.inj hlead⟩⟩
    split at hlead
    · next hend =>
      rw [Bool.and_eq_true] at hend
      exact ⟨by simpa using ht, .inr ⟨hend.1, hend.2, Option.some.inj hlead⟩⟩
    · cases hlead

/-- The parts that each of some calls writes, with the line breaks that are due before
    them. -/
def piecesOfEach : List Layout → List (List Part) → List (List Piece)
  | _, [] => []
  | ls, ps :: pss => pieces ls ps :: piecesOfEach (ps.foldl Part.after ls) pss

theorem flatten_piecesOfEach (ls : List Layout) (pss : List (List Part)) :
    (piecesOfEach ls pss).flatten = pieces ls pss.flatten := by
  induction pss generalizing ls with
  | nil => rfl
  | cons ps pss ih => rw [piecesOfEach, List.flatten_cons, ih, List.flatten_cons, pieces_append]

theorem take_piecesOfEach (ls : List Layout) (pss : List (List Part)) (n : Nat) :
    (piecesOfEach ls pss).take n = piecesOfEach ls (pss.take n) := by
  induction pss generalizing ls n with
  | nil => simp [piecesOfEach]
  | cons ps pss ih =>
    cases n with
    | zero => rfl
    | succ n => rw [piecesOfEach, List.take_succ_cons, ih, List.take_succ_cons, piecesOfEach]

/-- Each of some calls has written what it asks for, and what ends or separates parts. -/
def AreFor : List Call → List (List Piece) → Prop :=
  List.Forall₂ fun c ps => ∀ x ∈ ps, x.part.IsFor c.part?

namespace Writer

/-- The answers to some calls by writers that differ in their indents: the writers
    afterwards, the errors, and the parts that each call writes. -/
structure AreUniform (w : Writer) (cs : List Call) (vs : List Writer)
    (errors : List (Option Error)) (pss : List (List Part)) : Prop where
  writers : ∀ i, ((w.withIndent i).replies cs).map Reply.writer = vs.map (·.withIndent i)
  errors : ∀ i, ((w.withIndent i).replies cs).map Reply.error = errors
  texts : ∀ i, ((w.withIndent i).replies cs).map Reply.text =
    (piecesOfEach w.layouts pss).map (·.flatMap (Piece.spell i))
  layouts : ∀ i n, ((w.withIndent i).after (cs.take n)).layouts =
    (pss.take n).flatten.foldl Part.after w.layouts
  areFor : AreFor cs (piecesOfEach w.layouts pss)

theorem exists_areUniform (w : Writer) (cs : List Call) :
    ∃ vs errors pss, AreUniform w cs vs errors pss := by
  induction cs generalizing w with
  | nil =>
    refine ⟨[], [], [], fun i => rfl, fun i => rfl, fun i => rfl, fun i n => ?_, .nil⟩
    rw [List.take_nil, List.take_nil]
    rfl
  | cons c cs ih =>
    obtain ⟨v, ps, e, hv, hps, hstep⟩ := isUniform_step w c
    have hstep (i : Option String) :
        (w.withIndent i).step c = ⟨v.withIndent i, layOut i w.layouts ps, e⟩ := hstep i
    obtain ⟨vs, errors, pss, h⟩ := ih v
    refine ⟨v :: vs, e :: errors, ps :: pss, fun i => ?_, fun i => ?_, fun i => ?_,
      fun i n => ?_, ?_⟩
    · rw [replies, hstep, List.map_cons, h.writers, List.map_cons]
    · rw [replies, hstep, List.map_cons, h.errors]
    · rw [replies, hstep, List.map_cons, h.texts, piecesOfEach, List.map_cons, ← hv]
      rfl
    · cases n with
      | zero => rfl
      | succ n =>
        rw [List.take_succ_cons, after, hstep, h.layouts, List.take_succ_cons, List.flatten_cons,
          List.foldl_append, hv]
    · rw [piecesOfEach, ← hv]
      refine .cons (fun x hx => ?_) h.areFor
      have hx : x.part ∈ (pieces w.layouts ps).map Piece.part := List.mem_map_of_mem hx
      rw [map_part_pieces] at hx
      exact hps _ hx

/-- The indent changes the layout only. The same calls are refused, for the same reasons,
    and there are as many open elements after each of them. Each call writes the same
    parts, with line breaks before some of them, each of them where it is due. In an
    element that starts with a text there are none, so its text is the same. -/
theorem output_indent (indent : String) (cs : List Call) :
    ((fresh (some indent)).replies cs).map Reply.error =
      ((fresh none).replies cs).map Reply.error ∧
    (((fresh (some indent)).replies cs).map Reply.writer).map depth =
      (((fresh none).replies cs).map Reply.writer).map depth ∧
    ∃ pss : List (List Piece),
      ((fresh (some indent)).replies cs).map Reply.text =
        pss.map (·.flatMap (Piece.spell (some indent))) ∧
      ((fresh none).replies cs).map Reply.text = pss.map (·.flatMap (·.part.spell)) ∧
      AreFor cs pss ∧
      (∀ n, openAfter (pss.take n).flatten = ((fresh none).after (cs.take n)).layouts) ∧
      AreBrokenWhereDue pss.flatten ∧
      ∀ before lead name after, pss.flatten = before ++ ⟨lead, .start name⟩ :: after →
        startsWithText after = true →
          directText (some indent) 0 after = directText none 0 after := by
  obtain ⟨vs, errors, pss, h⟩ := exists_areUniform (fresh none) cs
  have hnone : (fresh none).layouts = [] := rfl
  refine ⟨(h.errors (some indent)).trans (h.errors none).symm, ?_, piecesOfEach [] pss,
    h.texts (some indent), h.texts none, h.areFor, fun n => ?_, ?_, ?_⟩
  · have hdepth (i : Option String) : (vs.map (·.withIndent i)).map depth = vs.map depth := by
      rw [List.map_map]
      rfl
    exact ((congrArg (List.map depth) (h.writers (some indent))).trans (hdepth _)).trans
      ((congrArg (List.map depth) (h.writers none)).trans (hdepth _)).symm
  · rw [openAfter, take_piecesOfEach, flatten_piecesOfEach, map_part_pieces]
    exact (h.layouts none n).symm
  · rw [flatten_piecesOfEach]
    exact areBrokenWhereDue_pieces pss.flatten
  · rw [flatten_piecesOfEach]
    intro before lead name after hpieces htext
    obtain ⟨ps, p, qs, -, rfl, hp, rfl⟩ := exists_of_pieces_eq hpieces
    obtain ⟨-, rfl⟩ := Piece.mk.inj hp
    exact directText_of_startsWithText (some indent) htext

/-- Text after a child ends the line breaks, but not the ones before it. -/
example :
    String.ofList ((fresh (some "\t")).output [.startElement "a", .startElement "b",
      .characters "x", .comment "y", .endElement, .emptyElement "c", .cdata "z", .comment "w",
      .endDocument]) =
      "<a>\n\t<b>x<!--y--></b>\n\t<c/><![CDATA[z]]><!--w--></a>\n" := by
  decide +kernel

end Writer

end InstallerKit.Markup
