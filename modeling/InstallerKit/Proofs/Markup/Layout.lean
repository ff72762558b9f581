import InstallerKit.Proofs.Markup.Draft
import InstallerKit.Proofs.Markup.Run

/-!
# Layout

A writer with an indent puts line breaks before child nodes and end tags. To a reader
a line break is character data like any other, so what it reads is not only what the
calls say. A `Sketch` is a draft together with what decides where line breaks go: of
each open element, whether it has children and whether a text has been written
directly in it.

* `Sketch.calls`: the draft of some calls, laid out with an indent.
-/

namespace InstallerKit.Markup

/-- What the layout depends on in an open element. -/
structure Layout where
  hasChildren : Bool
  hasText : Bool
  deriving DecidableEq, Repr

namespace Layout

variable (indent : Option String)

/-- The line break before a child of the innermost element. -/
def lead : List Layout → List Char
  | [] => []
  | l :: rest =>
    match indent with
    | some indent => if l.hasText then [] else Writer.lineBreak indent (rest.length + 1)
    | none => []

/-- The line break before the end tag of the innermost element. -/
def endLead : List Layout → List Char
  | [] => []
  | l :: rest =>
    match indent with
    | some indent =>
      if l.hasChildren && !l.hasText then Writer.lineBreak indent rest.length else []
    | none => []

/-- The line break before what a call writes. -/
def before (ls : List Layout) : Call → List Char
  | .startElement _ | .emptyElement _ | .comment _ | .instruction .. => lead indent ls
  | .endElement => endLead indent ls
  | _ => []

/-- A child node is written. -/
def child : List Layout → List Layout
  | [] => []
  | l :: rest => { l with hasChildren := true } :: rest

/-- A text is written. -/
def text : List Layout → List Layout
  | [] => []
  | l :: rest => { l with hasText := true } :: rest

/-- What a call makes of the layout. An empty text is none. -/
def after (ls : List Layout) : Call → List Layout
  | .startElement _ => ⟨false, false⟩ :: child ls
  | .emptyElement _ | .comment _ | .instruction .. => child ls
  | .endElement => ls.tail
  | .endDocument => []
  | .characters s => if s = "" then ls else text ls
  | .characterSlice buffer start length =>
    if buffer.sliceText start length = "" then ls else text ls
  | .cdata _ => text ls
  | _ => ls

end Layout

/-- What the layout depends on in an open element. -/
def OpenElement.layout (e : OpenElement) : Layout := ⟨e.hasChildren, e.hasText⟩

namespace Writer

theorem beforeNode_of_stack_eq_cons {w : Writer} {e : OpenElement} {es : List OpenElement}
    (h : w.pending = false) (hs : w.stack = e :: es) :
    w.beforeNode = .ok { w with started := true, stack := { e with hasChildren := true } :: es }
      (Layout.lead w.indent ((e :: es).map OpenElement.layout)) := by
  cases hi : w.indent <;>
    simp [beforeNode, closeTag_of_not_pending h, Reply.andThen, Reply.ok, mapTop, depth, hs, hi,
      Layout.lead, OpenElement.layout]

/-- A namespace is an attribute under a name of its own. -/
theorem declareNamespace_eq (w : Writer) (label uri : Datum) :
    w.declareNamespace label uri = w.addAttribute (.text (namespaceName label)) uri := by
  unfold declareNamespace namespaceName
  split <;> rfl

/-- An end tag comes after the line break that the layout asks for. -/
theorem endTag_eq (indent : Option String) (e : OpenElement) (es : List OpenElement) :
    endTag indent e es.length = Layout.endLead indent ((e :: es).map OpenElement.layout) ++
      ("</".toList ++ e.name.toList ++ ['>']) := by
  cases indent <;> simp [endTag, Layout.endLead, OpenElement.layout]

end Writer

/-- A draft with its layout. -/
structure Sketch where
  draft : Draft
  layouts : List Layout

namespace Sketch

def empty : Sketch := ⟨.empty, []⟩

variable (indent : Option String)

/-- Ends all open elements. -/
def closeAll : List Layout → Draft → Draft
  | [], d => d
  | l :: ls, d => closeAll ls (d.write (Layout.endLead indent (l :: ls))).finish

theorem names_closeAll (ls : List Layout) (d : Draft) :
    (closeAll indent ls d).names = d.names.drop ls.length := by
  induction ls generalizing d with
  | nil => rfl
  | cons l ls ih => rw [closeAll, ih, Draft.names_finish, Draft.names_write]; simp

/-- Once the outermost element has been ended there is a root element. -/
theorem isSome_root_closeAll {ls : List Layout} {d : Draft} (hd : d.names.length = ls.length) :
    (closeAll indent ls d).root.isSome = (d.root.isSome || !ls.isEmpty) := by
  induction ls generalizing d with
  | nil => simp [closeAll]
  | cons l ls ih =>
    obtain ⟨name, names, hn⟩ := List.exists_cons_of_length_eq_add_one hd
    have hlen : names.length = ls.length := by simpa [hn] using hd
    have hn' : (d.write (Layout.endLead indent (l :: ls))).names = name :: names := by
      rw [Draft.names_write, hn]
    rw [closeAll, ih (by simp [hn, hlen]), Draft.isSome_root_finish hn']
    cases ls <;> simp_all

/-- What a call makes of a sketch. -/
def call (s : Sketch) (c : Call) : Option Sketch :=
  match c with
  | .endDocument => some ⟨closeAll indent s.layouts s.draft, []⟩
  | c =>
    ((s.draft.write (Layout.before indent s.layouts c)).call c).map (⟨·, Layout.after s.layouts c⟩)

/-- What some calls make of a sketch. -/
def calls : Sketch → List Call → Option Sketch
  | s, [] => some s
  | s, c :: cs => (s.call indent c).bind fun s => s.calls cs

end Sketch

end InstallerKit.Markup
