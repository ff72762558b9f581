import InstallerKit.Markup.Script

/-!
# Runs of calls

Calls are made on a writer one after the other, and whoever makes them goes on after a
refusal. What has been written, the calls that went well, and the writer at the end
are functions of the calls.

A script makes calls too, depending on the answers. Given the writer it runs on, it
comes down to a list of calls:

* `Script.run_eq`: a script leaves behind what the calls that it makes leave behind;
* `Script.made_andThen`: two scripts, one after the other, make the calls of both.
-/

namespace InstallerKit.Markup

namespace Writer

/-- The writer after some calls. -/
def after : Writer → List Call → Writer
  | w, [] => w
  | w, c :: cs => (w.step c).writer.after cs

/-- What some calls write, refused ones included. -/
def output : Writer → List Call → List Char
  | _, [] => []
  | w, c :: cs => (w.step c).text ++ (w.step c).writer.output cs

/-- The answers to some calls. -/
def replies : Writer → List Call → List Reply
  | _, [] => []
  | w, c :: cs => w.step c :: (w.step c).writer.replies cs

/-- Those of some calls that are not refused. -/
def accepted : Writer → List Call → List Call
  | _, [] => []
  | w, c :: cs =>
    if (w.step c).error.isNone then c :: (w.step c).writer.accepted cs
    else (w.step c).writer.accepted cs

/-- The writer after a start tag has been closed. -/
theorem closeTag_of_pending {w : Writer} {e : OpenElement} {es : List OpenElement}
    (h : w.pending = true) (hs : w.stack = e :: es) :
    w.closeTag = .ok
      { w with
        pending := false
        stack := if e.isEmpty then es else e :: es
        rootClosed := w.rootClosed || (e.isEmpty && es.isEmpty) }
      (if e.isEmpty then "/>".toList else ">".toList) := by
  cases he : e.isEmpty <;> simp [closeTag, pop, h, hs, he]

theorem closeTag_of_not_pending {w : Writer} (h : w.pending = false) : w.closeTag = .ok w [] := by
  simp [closeTag, h]

/-- Making room for a node starts with closing the start tag. -/
theorem beforeNode_eq_andThen {w : Writer} (h : w.closeTag.writer.pending = false) :
    w.beforeNode = w.closeTag.andThen beforeNode := by
  unfold beforeNode
  cases he : w.closeTag.error <;> simp [Reply.andThen, he, closeTag_of_not_pending h, Reply.ok]

theorem beforeNode_of_stack_eq_nil {w : Writer} (h : w.pending = false) (hs : w.stack = []) :
    w.beforeNode = .ok { w with started := true } (if w.started then ['\n'] else []) := by
  simp [beforeNode, closeTag_of_not_pending h, Reply.andThen, Reply.ok, hs]

/-- Closing a start tag is never refused. -/
theorem closeTag_error (w : Writer) : w.closeTag.error = none := by
  unfold closeTag
  split
  · split
    · rfl
    · split <;> rfl
  · rfl

theorem andThen_of_error_eq_none {p : Reply} (h : p.error = none) (next : Writer → Reply) :
    p.andThen next =
      ⟨(next p.writer).writer, p.text ++ (next p.writer).text, (next p.writer).error⟩ := by
  rw [Reply.andThen, h]

/-- Closing everything is never refused, and leaves nothing open. -/
theorem endDocument_spec (w : Writer) :
    w.endDocument.error = none ∧ w.endDocument.writer.stack = [] := by
  rw [endDocument, andThen_of_error_eq_none w.closeTag_error]
  exact ⟨rfl, rfl⟩

/-- Ends the innermost element with an end tag. -/
def closeElement (w : Writer) : Reply :=
  match w.stack with
  | [] => .refuse w .unmatchedEnd
  | e :: rest => .ok w.pop (endTag w.indent e rest.length)

/-- The start tag of an element without content is closed as that of an empty one. Any
    other element gets an end tag. -/
theorem endElement_cases (w : Writer) :
    (∃ e rest, w.stack = e :: rest ∧ w.pending = true ∧ e.isEmpty = false ∧
      w.endElement = .ok { w with pending := false }.pop "/>".toList) ∨
    w.endElement = w.closeTag.andThen closeElement := by
  cases hs : w.stack with
  | nil =>
    right
    simp only [endElement, hs]
    rfl
  | cons e rest =>
    by_cases hp : (w.pending && !e.isEmpty) = true
    · left
      have hp' : w.pending = true ∧ e.isEmpty = false := by simpa using hp
      refine ⟨e, rest, rfl, hp'.1, hp'.2, ?_⟩
      simp only [endElement, hs, hp, if_true]
    · right
      simp only [endElement, hs, hp]
      rfl

/-! ### What a run keeps -/

/-- A property of writers that none of the changes takes away of which calls are made. -/
structure IsKept (P : Writer → Prop) : Prop where
  settle {w : Writer} : P w → P { w with pending := false }
  start {w : Writer} : P w → P { w with started := true }
  pop {w : Writer} : P w → P w.pop
  push {w : Writer} (e : OpenElement) : P w → P { w with stack := e :: w.stack, pending := true }
  mapTop {w : Writer} (f : OpenElement → OpenElement) : P w → P (w.mapTop f)
  clear {w : Writer} :
    P w → P { w with stack := [], rootClosed := w.rootClosed || !w.stack.isEmpty }

namespace IsKept

variable {P : Writer → Prop} (hP : IsKept P) {w : Writer} (h : P w)
include h

omit h in
theorem andThen {p : Reply} {next : Writer → Reply} (hp : P p.writer)
    (hnext : ∀ v, P v → P (next v).writer) : P (p.andThen next).writer := by
  unfold Reply.andThen
  split
  · exact hp
  · exact hnext _ hp

include hP

theorem closeTag : P w.closeTag.writer := by
  unfold Writer.closeTag
  split
  · split
    · exact hP.settle h
    · split
      · exact hP.pop (hP.settle h)
      · exact hP.settle h
  · exact h

theorem beforeNode : P w.beforeNode.writer := by
  refine andThen (hP.closeTag h) fun v hv => ?_
  split
  · exact hP.start hv
  · exact hP.mapTop _ (hP.start hv)

theorem openElement (name : Datum) (isEmpty : Bool) : P (w.openElement name isEmpty).writer := by
  unfold Writer.openElement
  split
  · split
    · refine andThen (hP.closeTag h) fun v hv => ?_
      split
      · exact hv
      · exact andThen (hP.beforeNode hv) fun u hu => hP.push _ hu
    · exact h
  · exact h

theorem addAttribute (name value : Datum) : P (w.addAttribute name value).writer := by
  unfold Writer.addAttribute
  split
  · split
    · split
      · exact h
      · split
        · exact h
        · split
          · exact h
          · exact hP.mapTop _ h
    · exact h
  · exact h

theorem endElement : P w.endElement.writer := by
  rcases w.endElement_cases with ⟨-, -, -, -, -, heq⟩ | heq
  · rw [heq]
    exact hP.pop (hP.settle h)
  · rw [heq]
    refine andThen (hP.closeTag h) fun v hv => ?_
    unfold closeElement
    split
    · exact hv
    · exact hP.pop hv

theorem characters (text : String) : P (w.characters text).writer := by
  unfold Writer.characters
  split
  · exact h
  · refine andThen (hP.closeTag h) fun v hv => ?_
    split
    · split <;> exact hv
    · split
      · exact hv
      · exact hP.mapTop _ hv

/-- Whatever call is made. -/
theorem step (c : Call) : P (w.step c).writer := by
  cases c with
  | startDocument version encoding =>
    rw [Writer.step, startDocument]
    split
    · exact h
    · exact hP.start h
  | endDocument => exact andThen (hP.closeTag h) fun v hv => hP.clear hv
  | startElement name => exact hP.openElement h name false
  | emptyElement name => exact hP.openElement h name true
  | endElement => exact hP.endElement h
  | defaultNamespace uri => exact hP.addAttribute h _ _
  | declareNamespace label uri =>
    rw [Writer.step, declareNamespace]
    split <;> exact hP.addAttribute h _ _
  | «attribute» name value => exact hP.addAttribute h _ _
  | characters text => exact hP.characters h text
  | characterSlice buffer start length => exact hP.characters h _
  | cdata text =>
    rw [Writer.step, cdata]
    split
    · exact h
    · refine andThen (hP.closeTag h) fun v hv => ?_
      split
      · exact hv
      · exact hP.mapTop _ hv
  | comment text =>
    rw [Writer.step, comment]
    split
    · exact h
    · split
      · exact h
      · exact andThen (hP.beforeNode h) fun v hv => hv
  | instruction target data =>
    rw [Writer.step, instruction]
    split
    · exact h
    · split
      · exact h
      · split
        · exact h
        · exact andThen (hP.beforeNode h) fun v hv => hv
  | flush => exact h

/-- Whatever calls are made. -/
theorem after (cs : List Call) : P (w.after cs) := by
  induction cs generalizing w with
  | nil => exact h
  | cons c cs ih => exact ih (hP.step h c)

end IsKept

/-- A writer that has started stays so. -/
theorem isKept_started : IsKept fun w => w.started = true where
  settle := id
  start _ := rfl
  pop := id
  push _ := id
  mapTop _ := id
  clear := id

theorem started_step {w : Writer} (h : w.started = true) (c : Call) :
    (w.step c).writer.started = true :=
  isKept_started.step h c

theorem started_after {w : Writer} (h : w.started = true) (cs : List Call) :
    (w.after cs).started = true :=
  isKept_started.after h cs

variable (w : Writer) (cs ds : List Call)

@[simp] theorem after_nil : w.after [] = w := rfl

@[simp] theorem output_nil : w.output [] = [] := rfl

@[simp] theorem after_append : w.after (cs ++ ds) = (w.after cs).after ds := by
  induction cs generalizing w with
  | nil => rfl
  | cons c cs ih => exact ih _

@[simp] theorem output_append : w.output (cs ++ ds) = w.output cs ++ (w.after cs).output ds := by
  induction cs generalizing w with
  | nil => rfl
  | cons c cs ih => rw [List.cons_append, output, ih, output, after, List.append_assoc]

theorem accepted_append : w.accepted (cs ++ ds) = w.accepted cs ++ (w.after cs).accepted ds := by
  induction cs generalizing w with
  | nil => rfl
  | cons c cs ih =>
    rw [List.cons_append, accepted, accepted, after, ih]
    split <;> rfl

variable {w cs} in
theorem mem_accepted_cons {c x : Call} : x ∈ w.accepted (c :: cs) ↔
    (w.step c).error = none ∧ x = c ∨ x ∈ (w.step c).writer.accepted cs := by
  rw [accepted]
  split <;> simp_all

variable {w cs} in
/-- What is accepted has been called. -/
theorem accepted_subset {c : Call} (h : c ∈ w.accepted cs) : c ∈ cs := by
  induction cs generalizing w with
  | nil => exact h
  | cons x cs ih =>
    rcases mem_accepted_cons.1 h with ⟨-, rfl⟩ | h
    · simp
    · exact List.mem_cons_of_mem _ (ih h)

end Writer

namespace Script

/-- The calls that a script makes on a writer. -/
def made : Script → Writer → List Call
  | done, _ => []
  | fail _, _ => []
  | call c next, w => c :: (next (w.step c).error).made (w.step c).writer

/-- A script leaves behind what the calls that it makes leave behind. -/
theorem run_eq (s : Script) (w : Writer) :
    (s.run w).writer = w.after (s.made w) ∧ (s.run w).text = w.output (s.made w) := by
  induction s generalizing w with
  | done => exact ⟨rfl, rfl⟩
  | fail f => exact ⟨rfl, rfl⟩
  | call c next ih =>
    obtain ⟨hw, ht⟩ := ih (w.step c).error (w.step c).writer
    exact ⟨hw, by rw [run, made, Writer.output, ht]⟩

@[simp] theorem run_text (s : Script) (w : Writer) : (s.run w).text = w.output (s.made w) :=
  (s.run_eq w).2

/-- The second of two scripts fails, unless the first has. -/
theorem run_andThen_fault (s t : Script) (w : Writer) :
    ((s.andThen t).run w).fault =
      (s.run w).fault.or (t.run (w.after (s.made w))).fault := by
  induction s generalizing w with
  | done => rfl
  | fail f => rfl
  | call c next ih => exact ih (w.step c).error (w.step c).writer

/-- The second of two scripts makes its calls, unless the first has failed. -/
theorem made_andThen (s t : Script) (w : Writer) :
    (s.andThen t).made w =
      s.made w ++ if (s.run w).fault.isNone then t.made (w.after (s.made w)) else [] := by
  induction s generalizing w with
  | done => rfl
  | fail f => rfl
  | call c next ih => exact congrArg (c :: ·) (ih (w.step c).error (w.step c).writer)

/-- Two scripts have no fault if neither of them has, and make the calls of both. -/
theorem andThen_of_fault_eq_none {s t : Script} {w : Writer}
    (h : ((s.andThen t).run w).fault = none) :
    (s.run w).fault = none ∧ (t.run (w.after (s.made w))).fault = none ∧
      (s.andThen t).made w = s.made w ++ t.made (w.after (s.made w)) := by
  rw [run_andThen_fault, Option.or_eq_none_iff] at h
  refine ⟨h.1, h.2, ?_⟩
  rw [made_andThen, h.1]
  rfl

end Script

end InstallerKit.Markup
