import InstallerKit.Document
import InstallerKit.Proofs.Markup.Layout

/-!
# Which calls are accepted

Inside of an element a writer accepts a call whatever has been written before it: an
element if its name is one, an attribute of a tag that is still open if, besides, it
is a new one, and a text if no character in it is forbidden. An end is accepted
anyway. Of the writer it only matters how many elements are open once a start tag
that is still open has been closed (`Writer.level`).

* `Writer.Takes`: none of some calls is refused;
* `Script.run_ofCalls`: a script of given calls runs without a fault if they are taken;
* `Leads`: when some calls are taken, and where they lead to then;
* `leads_openElement`, `leads_attributes`, `leads_characters`, `leads_endElement`: the
  calls that elements are written with.
-/

namespace InstallerKit

namespace Markup

/-- A text without forbidden characters. -/
def IsClean (s : String) : Prop :=
  ∀ c ∈ s.toList, isForbidden c = false

instance (s : String) : Decidable (IsClean s) :=
  List.decidableBAll (isForbidden · = false) s.toList

theorem find?_isForbidden {s : String} : s.toList.find? isForbidden = none ↔ IsClean s := by
  simp [IsClean]

namespace Writer

/-- None of some calls is refused. -/
def Takes : Writer → List Call → Prop
  | _, [] => True
  | w, c :: cs => (w.step c).error = none ∧ (w.step c).writer.Takes cs

theorem takes_append {w : Writer} {cs ds : List Call} :
    w.Takes (cs ++ ds) ↔ w.Takes cs ∧ (w.after cs).Takes ds := by
  induction cs generalizing w with
  | nil => simp [Takes]
  | cons c cs ih => simp [Takes, after, ih, and_assoc]

theorem Takes.accepted {w : Writer} {cs : List Call} (h : w.Takes cs) : w.accepted cs = cs := by
  induction cs generalizing w with
  | nil => rfl
  | cons c cs ih => simp [Writer.accepted, h.1, ih h.2]

/-- The number of elements that are open once a start tag that is open is closed. -/
def level (w : Writer) : Nat :=
  w.closeTag.writer.stack.length

theorem level_of_not_pending {w : Writer} (h : w.pending = false) : w.level = w.stack.length := by
  rw [level, closeTag_of_not_pending h]
  rfl

theorem pending_closeTag (w : Writer) : w.closeTag.writer.pending = false := by
  cases hp : w.pending with
  | false => rw [closeTag_of_not_pending hp]; exact hp
  | true =>
    cases hs : w.stack with
    | nil => simp [closeTag, hp, hs, Reply.ok]
    | cons e es => rw [closeTag_of_pending hp hs]; rfl

/-- A start tag is open in which there are some names, inside of `n` elements. -/
def InTag (w : Writer) (isEmpty : Bool) (names : List String) (n : Nat) : Prop :=
  ∃ e es, w.pending = true ∧ w.stack = e :: es ∧ e.isEmpty = isEmpty ∧ e.attributes = names ∧
    es.length = n

theorem InTag.level {w : Writer} {isEmpty : Bool} {names : List String} {n : Nat}
    (h : w.InTag isEmpty names n) : w.level = if isEmpty then n else n + 1 := by
  obtain ⟨e, es, hp, hs, rfl, -, rfl⟩ := h
  rw [Writer.level, closeTag_of_pending hp hs]
  cases e.isEmpty <;> rfl

/-- Inside of an element there is an innermost one. -/
theorem exists_stack_closeTag {w : Writer} {n : Nat} (h : w.level = n + 1) :
    ∃ e es, w.closeTag.writer.stack = e :: es ∧ es.length = n := by
  obtain ⟨e, es, hs⟩ := List.exists_cons_of_length_eq_add_one h
  refine ⟨e, es, hs, ?_⟩
  rw [level, hs] at h
  simpa using h

end Writer

/-! ### Scripts of given calls -/

namespace Script

theorem ofCalls_append (cs ds : List Call) :
    ofCalls (cs ++ ds) = (ofCalls cs).andThen (ofCalls ds) := by
  induction cs with
  | nil => rfl
  | cons c cs ih =>
    rw [List.cons_append, ofCalls, ofCalls, andThen, ih]
    congr 1
    funext e
    cases e <;> rfl

theorem andThen_assoc (s t u : Script) : (s.andThen t).andThen u = s.andThen (t.andThen u) := by
  induction s with
  | done => rfl
  | fail f => rfl
  | call c next ih => exact congrArg (call c) (funext ih)

theorem mapCalls_andThen (change : Call → Except Error Call) (s t : Script) :
    (s.andThen t).mapCalls change = (s.mapCalls change).andThen (t.mapCalls change) := by
  induction s with
  | done => rfl
  | fail f => rfl
  | call c next ih =>
    rw [andThen, mapCalls, mapCalls]
    cases change c with
    | error e => exact ih (some e)
    | ok c => exact congrArg (call c) (funext ih)

/-- Calls that are all changed into others. -/
theorem mapCalls_ofCalls {change : Call → Except Error Call} {cs ds : List Call}
    (h : cs.map change = ds.map .ok) : (ofCalls cs).mapCalls change = ofCalls ds := by
  induction cs generalizing ds with
  | nil =>
    obtain rfl : ds = [] := by simpa using h.symm
    rfl
  | cons c cs ih =>
    cases ds with
    | nil => simp at h
    | cons d ds =>
      simp only [List.map_cons, List.cons.injEq] at h
      rw [ofCalls, mapCalls, h.1, ofCalls]
      refine congrArg (call d) (funext fun e => ?_)
      cases e with
      | none => exact ih h.2
      | some e => rfl

/-- Given calls fail as soon as one of them is refused, and are made if none is. -/
theorem run_ofCalls (cs : List Call) (w : Writer) :
    (((ofCalls cs).run w).fault = none ↔ w.Takes cs) ∧
      (w.Takes cs → ((ofCalls cs).run w).text = w.output cs) := by
  induction cs generalizing w with
  | nil => simp [ofCalls, run, Writer.Takes]
  | cons c cs ih =>
    rw [ofCalls, run, Writer.Takes, Writer.output]
    cases h : (w.step c).error with
    | some e => simp [run]
    | none =>
      refine ⟨by simpa using (ih _).1, fun ht => ?_⟩
      simpa using (ih _).2 ht.2

theorem made_ofCalls {w : Writer} {cs : List Call} (h : w.Takes cs) : (ofCalls cs).made w = cs := by
  induction cs generalizing w with
  | nil => rfl
  | cons c cs ih => rw [ofCalls, made, h.1, ih h.2]

end Script

end Markup

/-- Given calls are rendered as what they write, if they are all taken. -/
theorem Document.render_ofCalls {indent : Option String} {encoding : String}
    {cs : List Markup.Call} {text : List Char} :
    render indent encoding (.ofCalls cs) = .ok text ↔
      (Markup.Writer.fresh indent).Takes (.startDocument "1.0" encoding :: (cs ++ [.endDocument])) ∧
      text = (Markup.Writer.fresh indent).output
        (.startDocument "1.0" encoding :: (cs ++ [.endDocument])) := by
  obtain ⟨hf, ht⟩ := Markup.Script.run_ofCalls
    (.startDocument "1.0" encoding :: (cs ++ [.endDocument])) (.fresh indent)
  rw [render, complete, ← Markup.Script.ofCalls_append, ← Markup.Script.ofCalls_append]
  simp only [List.cons_append, List.nil_append]
  split
  · next f h => simp [← hf, h]
  · next h =>
    have hr := hf.1 h
    simp [hr, ← ht hr, eq_comm]

namespace Markup

/-! ### What is taken, and where it leads -/

/-- Some calls are taken if, and only if, `P` holds, and then lead to a writer with `Q`. -/
def Leads (w : Writer) (cs : List Call) (P : Prop) (Q : Writer → Prop) : Prop :=
  (w.Takes cs ↔ P) ∧ (P → Q (w.after cs))

namespace Leads

variable {w : Writer} {cs ds : List Call} {P P' : Prop} {Q Q' : Writer → Prop}

theorem nil (h : Q w) : Leads w [] True Q := ⟨Iff.rfl, fun _ => h⟩

theorem one {c : Call} (h : (w.step c).error = none ↔ P) (hQ : P → Q (w.step c).writer) :
    Leads w [c] P Q := ⟨by simp [Writer.Takes, h], hQ⟩

theorem append (h : Leads w cs P Q) (h' : ∀ v, Q v → Leads v ds P' Q') :
    Leads w (cs ++ ds) (P ∧ P') Q' := by
  refine ⟨?_, fun hp => ?_⟩
  · rw [Writer.takes_append, h.1]
    exact and_congr_right fun hp => (h' _ (h.2 hp)).1
  · rw [Writer.after_append]
    exact (h' _ (h.2 hp.1)).2 hp.2

theorem cons {c : Call} (h : Leads w [c] P Q) (h' : ∀ v, Q v → Leads v ds P' Q') :
    Leads w (c :: ds) (P ∧ P') Q' :=
  h.append h'

theorem congr (h : Leads w cs P Q) (hP : P ↔ P') : Leads w cs P' Q :=
  ⟨h.1.trans hP, fun hp => h.2 (hP.2 hp)⟩

theorem mono (h : Leads w cs P Q) (hQ : ∀ v, Q v → Q' v) : Leads w cs P Q' :=
  ⟨h.1, fun hp => hQ _ (h.2 hp)⟩

/-- One after the other, what belongs to each of some things keeps the level. -/
theorem flatMap {α : Type} {as : List α} {f : α → List Call} {P : α → Prop} {n : Nat}
    (h : ∀ a ∈ as, ∀ w : Writer, w.level = n → Leads w (f a) (P a) (·.level = n))
    (hw : w.level = n) : Leads w (as.flatMap f) (∀ a ∈ as, P a) (·.level = n) := by
  induction as generalizing w with
  | nil => exact (nil hw).congr (by simp)
  | cons a as ih =>
    rw [List.flatMap_cons]
    refine (append (h a (by simp) w hw) fun v hv => ?_).congr List.forall_mem_cons.symm
    exact ih (fun x hx => h x (by simp [hx])) hv

end Leads

section Inside

variable {w : Writer} {n : Nat}

/-- An element is started if its name is one. -/
theorem openElement_spec (h : w.level = n + 1) (name : String) (isEmpty : Bool) :
    ((w.openElement name isEmpty).error = none ↔ isName name.toList) ∧
      (isName name.toList → (w.openElement name isEmpty).writer.InTag isEmpty [] (n + 1)) := by
  obtain ⟨e, es, hs, hlen⟩ := w.exists_stack_closeTag h
  unfold Writer.openElement
  by_cases hn : isName name.toList = true
  · simp only [hn, if_true]
    rw [Writer.andThen_of_error_eq_none w.closeTag_error]
    simp only [hs, List.isEmpty_cons, Bool.false_and, Bool.false_eq_true, if_false,
      Writer.beforeNode_of_stack_eq_cons w.pending_closeTag hs, Reply.andThen, Reply.ok]
    exact ⟨by simp, fun _ => ⟨_, _, rfl, rfl, rfl, rfl, by simp [hlen]⟩⟩
  · simp [hn, Reply.refuse]

theorem leads_startElement (h : w.level = n + 1) (name : String) :
    Leads w [.startElement name] (isName name.toList) (·.InTag false [] (n + 1)) :=
  .one (openElement_spec h name false).1 (openElement_spec h name false).2

theorem leads_emptyElement (h : w.level = n + 1) (name : String) :
    Leads w [.emptyElement name] (isName name.toList) (·.InTag true [] (n + 1)) :=
  .one (openElement_spec h name true).1 (openElement_spec h name true).2

/-- An attribute of a tag that is open is accepted if its name is one, and not there
    yet, and its value is clean. -/
theorem addAttribute_spec {isEmpty : Bool} {names : List String} (h : w.InTag isEmpty names n)
    {name : String} (hnew : name ∉ names) (value : String) :
    ((w.addAttribute name value).error = none ↔ isName name.toList ∧ IsClean value) ∧
      (isName name.toList ∧ IsClean value →
        (w.addAttribute name value).writer.InTag isEmpty (names ++ [name]) n) := by
  obtain ⟨e, es, hp, hs, he, rfl, hlen⟩ := h
  unfold Writer.addAttribute
  simp only [hp, hs, hnew, if_false, ← find?_isForbidden, Datum.display]
  by_cases hn : isName name.toList = true
  · cases hv : value.toList.find? isForbidden with
    | some c => simp [hn, Reply.refuse]
    | none =>
      simp only [hn, Bool.not_true, Bool.false_eq_true, if_false, Reply.ok, and_self, forall_const,
        true_and]
      exact ⟨{ e with attributes := e.attributes ++ [name] }, es, hp, by simp [Writer.mapTop, hs],
        he, rfl, hlen⟩
  · simp [hn, Reply.refuse]

theorem leads_attributes {isEmpty : Bool} {names : List String} (h : w.InTag isEmpty names n)
    {entries : List (String × String)} (hnew : (names ++ entries.map Prod.fst).Nodup) :
    Leads w (entries.map fun (name, value) => .attribute name value)
      (∀ a ∈ entries, isName a.1.toList ∧ IsClean a.2)
      (·.InTag isEmpty (names ++ entries.map Prod.fst) n) := by
  induction entries generalizing w names with
  | nil => exact (Leads.nil (by simpa using h)).congr (by simp)
  | cons a entries ih =>
    have hnot : a.1 ∉ names := fun ha =>
      (List.nodup_append.1 hnew).2.2 _ ha a.1 (by simp) rfl
    have ha : Leads w [.attribute a.1 a.2] (isName a.1.toList ∧ IsClean a.2)
        (·.InTag isEmpty (names ++ [a.1]) n) :=
      .one (addAttribute_spec h hnot a.2).1 (addAttribute_spec h hnot a.2).2
    refine (ha.cons fun v hv => ?_).congr (by rw [List.forall_mem_cons])
    have happend : names ++ (a :: entries).map Prod.fst =
        names ++ [a.1] ++ entries.map Prod.fst := by
      simp
    rw [happend] at hnew ⊢
    exact ih hv hnew

/-- A text is accepted if it is clean, and leaves the elements open that are. -/
theorem leads_characters (h : w.level = n + 1) (text : String) :
    Leads w [.characters text] (IsClean text) (·.level = n + 1) := by
  obtain ⟨e, es, hs, hlen⟩ := w.exists_stack_closeTag h
  by_cases ht : text = ""
  · subst ht
    have hstep : w.step (.characters "") = .ok w [] := by simp [Writer.step, Writer.characters]
    exact .one (by rw [hstep]; simp [Reply.ok, IsClean]) fun _ => by rw [hstep]; exact h
  · simp only [Leads, Writer.Takes, Writer.after, and_true, Writer.step, Writer.characters,
      if_neg ht, Writer.andThen_of_error_eq_none w.closeTag_error, hs, ← find?_isForbidden]
    refine ⟨?_, fun hc => ?_⟩
    · cases text.toList.find? isForbidden <;> simp [Reply.ok, Reply.refuse]
    · rw [hc]
      refine (Writer.level_of_not_pending (w := w.closeTag.writer.mapTop _)
        w.pending_closeTag).trans ?_
      simp [Writer.mapTop, hs, hlen]

/-- An end is accepted, and closes an element. -/
theorem leads_endElement (h : w.level = n + 1) : Leads w [.endElement] True (·.level = n) := by
  obtain ⟨e, es, hs, hlen⟩ := w.exists_stack_closeTag h
  have hclose : w.closeTag.writer.pop.level = n := by
    rw [Writer.level_of_not_pending (w := w.closeTag.writer.pop) w.pending_closeTag]
    simp [Writer.pop, hs, hlen]
  have hstep : (w.step .endElement).error = none ∧ (w.step .endElement).writer.level = n := by
    rw [Writer.step]
    rcases w.endElement_cases with ⟨x, xs, hx, hp, he, heq⟩ | heq
    · rw [Writer.level, Writer.closeTag_of_pending hp hx, he] at h
      rw [heq]
      refine ⟨rfl, (Writer.level_of_not_pending rfl).trans ?_⟩
      simpa [Reply.ok, Writer.pop, hx] using h
    · rw [heq, Writer.andThen_of_error_eq_none w.closeTag_error, Writer.closeElement, hs]
      exact ⟨rfl, hclose⟩
  exact .one (by simp [hstep.1]) fun _ => hstep.2

end Inside

end Markup

end InstallerKit
