import InstallerKit.Proofs.Markup.ReadBack
import InstallerKit.Proofs.Markup.Element

/-!
# Calls above an element

Calls that end no more elements than they start leave everything below them alone:
what was open before is still open, and what was in it is still all that is in it
(`Sketch.call_above`). Calls that end more get out of the element that they started in,
and never back into it: what is written has a *place*, which is the child of the root
element that it is in, and the places only go up (`Reader.IsPast.feed`).

* `opened`: how many elements some calls leave open, if they end none but their own;
* `Draft.HasOutline`: the children of the root, whether it is still open or not;
* `Reader.place`: the child of the root that the reader is in;
* `Follower.run_above`: what some calls do inside of a child of the root.
-/

namespace InstallerKit.Markup

/-- The number of elements that are open after a call, if there were `k` before; none if
    the call ends another one. -/
def Call.opened (k : Nat) : Call → Option Nat
  | .startElement _ => some (k + 1)
  | .endElement => if k = 0 then none else some (k - 1)
  | .endDocument => none
  | _ => some k

/-- The number of elements that are open after some calls, if there were `k` before; none
    if they end another one in between. -/
def opened : Nat → List Call → Option Nat
  | k, [] => some k
  | k, c :: cs => (c.opened k).bind (opened · cs)

theorem Call.opened_asRead (k : Nat) (c : Call) : c.asRead.opened k = c.opened k := by
  cases c with
  | startElement name | emptyElement name | «attribute» name value => cases name <;> rfl
  | _ => rfl

/-- The name of a node that is an element. -/
def Node.elementName? : Node → Option String
  | .element t _ => some t.name
  | _ => none

/-- The names of the elements among some nodes. -/
def elementNames (ns : List Node) : List String :=
  ns.filterMap Node.elementName?

@[simp] theorem elementNames_append (ns ms : List Node) :
    elementNames (ns ++ ms) = elementNames ns ++ elementNames ms :=
  List.filterMap_append

@[simp] theorem elementNames_chars (cs : List Char) : elementNames (cs.map .char) = [] := by
  simp [elementNames, Node.elementName?]

@[simp] theorem elementNames_reverse (ns : List Node) :
    elementNames ns.reverse = (elementNames ns).reverse :=
  List.filterMap_reverse

/-! ### Frames below -/

/-- Changing the innermost frame changes the one that is `fs.length` frames further out
    at most. -/
theorem exists_above {fs base : List Frame} {f x y : Frame} {rest : List Frame}
    (h : x :: rest = fs ++ f :: base) (hn : y.tag.name = x.tag.name) :
    ∃ fs' f', y :: rest = fs' ++ f' :: base ∧ fs'.length = fs.length ∧
      f'.tag.name = f.tag.name := by
  cases fs with
  | nil =>
    obtain ⟨rfl, rfl⟩ : x = f ∧ rest = base := by simpa using h
    exact ⟨[], y, rfl, rfl, hn⟩
  | cons g fs =>
    obtain ⟨rfl, rfl⟩ : x = g ∧ rest = fs ++ f :: base := by simpa using h
    exact ⟨y :: fs, f, rfl, rfl, rfl⟩

namespace Draft

variable {d d' : Draft}

/-- A draft has frames above some others, the lowest of them with a given name. -/
def IsAbove (d : Draft) (k : Nat) (name : String) (base : List Frame) : Prop :=
  d.root = none ∧ ∃ fs f, d.stack = fs ++ f :: base ∧ fs.length = k ∧ f.tag.name = name

variable {k : Nat} {name : String} {base : List Frame}

theorem IsAbove.ne_nil (h : d.IsAbove k name base) : d.stack ≠ [] := by
  obtain ⟨-, fs, f, hs, -⟩ := h
  simp [hs]

theorem IsAbove.addNodes (h : d.IsAbove k name base) (ns : List Node) :
    (d.addNodes ns).IsAbove k name base := by
  obtain ⟨hr, fs, f, hs, rfl, rfl⟩ := h
  cases hd : d.stack with
  | nil => simp [hd] at hs
  | cons x rest =>
    obtain ⟨fs', f', h', hlen, hname⟩ := exists_above (y := ⟨x.tag, ns.reverse ++ x.content⟩)
      (hd.symm.trans hs) rfl
    have heq : d.addNodes ns = { d with stack := ⟨x.tag, ns.reverse ++ x.content⟩ :: rest } := by
      rw [Draft.addNodes, hd]
    rw [heq]
    exact ⟨hr, fs', f', h', hlen, hname⟩

theorem IsAbove.write (h : d.IsAbove k name base) (cs : List Char) :
    (d.write cs).IsAbove k name base := by
  rw [write_eq_addNodes]
  exact h.addNodes _

theorem IsAbove.addElement (h : d.IsAbove k name base) (t : Tag) (content : List Node) :
    (d.addElement t content).IsAbove k name base := by
  rw [addElement_eq_addNodes h.ne_nil]
  exact h.addNodes _

theorem addAside_eq_addNodes (h : d.stack ≠ []) (a : Aside) :
    d.addAside a = d.addNodes [.aside a] := by
  unfold addAside addNodes
  cases hs : d.stack with
  | nil => exact absurd hs h
  | cons f rest => rfl

theorem IsAbove.push (h : d.IsAbove k name base) (t : Tag) :
    (d.push t).IsAbove (k + 1) name base := by
  obtain ⟨hr, fs, f, hs, rfl, rfl⟩ := h
  exact ⟨hr, ⟨t, []⟩ :: fs, f, by simp [Draft.push, hs], by simp, rfl⟩

theorem IsAbove.finish (h : d.IsAbove (k + 1) name base) : d.finish.IsAbove k name base := by
  obtain ⟨hr, fs, f, hs, hlen, rfl⟩ := h
  obtain ⟨x, fs, rfl⟩ := List.exists_cons_of_length_eq_add_one hlen
  have heq : d.finish = { d with stack := fs ++ f :: base }.addElement x.tag x.content.reverse := by
    rw [Draft.finish, hs]
    rfl
  have habove : IsAbove { d with stack := fs ++ f :: base } k f.tag.name base :=
    ⟨hr, fs, f, rfl, by simpa using hlen, rfl⟩
  rw [heq]
  exact habove.addElement _ _

theorem IsAbove.addAttribute (h : d.IsAbove k name base) {n v : String}
    (hd : d.addAttribute n v = some d') : d'.IsAbove k name base := by
  obtain ⟨hr, fs, f, hs, rfl, rfl⟩ := h
  cases hx : d.stack with
  | nil => simp [hx] at hs
  | cons x rest =>
    have habove {y : Frame} (hy : y.tag.name = x.tag.name) :
        IsAbove { d with stack := y :: rest } fs.length f.tag.name base := by
      obtain ⟨fs', f', h', hlen, hname⟩ := exists_above (hx.symm.trans hs) hy
      exact ⟨hr, fs', f', h', hlen, hname⟩
    unfold Draft.addAttribute at hd
    simp only [hx] at hd
    split at hd
    · cases hd; exact habove rfl
    · cases hd; exact habove rfl
    · cases hd

/-- A call that ends no more than its own elements leaves the frames below alone. -/
theorem IsAbove.call (h : d.IsAbove k name base) {c : Call} {j : Nat} (hk : c.opened k = some j)
    (hd : d.call c = some d') : d'.IsAbove j name base := by
  -- Whatever is added goes to the innermost open element, which is not below.
  have hne := h.ne_nil
  have haside (a : Aside) : (d.addAside a).IsAbove k name base := by
    rw [addAside_eq_addNodes hne]
    exact h.addNodes _
  have htext {text : String} (ht : d.addText text = some d') : d'.IsAbove k name base := by
    simp only [addText, List.isEmpty_eq_false_iff.2 hne, Bool.false_and, Bool.false_eq_true,
      if_false, Option.some.injEq] at ht
    exact ht ▸ h.write _
  cases c with
  | startDocument version encoding =>
    simp [Draft.call, isUntouched, hne] at hd
  | endDocument => cases hk
  | startElement n =>
    cases hk
    cases n <;> simp only [Draft.call, reduceCtorEq] at hd
    split at hd <;> cases hd
    exact h.push _
  | emptyElement n =>
    cases hk
    cases n <;> simp only [Draft.call, reduceCtorEq] at hd
    split at hd <;> cases hd
    exact h.addElement _ _
  | endElement =>
    cases k with
    | zero => cases hk
    | succ k =>
      cases hk
      simp only [Draft.call] at hd
      split at hd <;> cases hd
      exact h.finish
  | defaultNamespace uri => cases hk; exact h.addAttribute hd
  | declareNamespace label uri => cases hk; exact h.addAttribute hd
  | «attribute» n value =>
    cases hk
    cases n <;> simp only [Draft.call, reduceCtorEq] at hd
    exact h.addAttribute hd
  | characters text => cases hk; exact htext hd
  | characterSlice buffer start length => cases hk; exact htext hd
  | cdata text =>
    cases hk
    simp only [Draft.call] at hd
    split at hd <;> cases hd
    exact h.write _
  | comment text => cases hk; cases hd; exact haside _
  | instruction target data => cases hk; cases hd; exact haside _
  | flush => cases hk; cases hd; exact h

/-! ### The children of the root -/

/-- Between two children of the root, which has a name and elements of some names in
    it, the latest first. -/
def IsBetween (d : Draft) (root : String) (names : List String) : Prop :=
  d.root = none ∧ ∃ g, d.stack = [g] ∧ g.tag.name = root ∧ elementNames g.content = names

/-- The root has a name, and its children have some names, the latest first: it is
    open, and maybe one of them is, too, or it is closed. -/
inductive HasOutline (d : Draft) (root : String) : List String → Prop
  | inside {k : Nat} {name : String} {g : Frame} (above : d.IsAbove k name [g])
      (tag : g.tag.name = root) : HasOutline d root (name :: elementNames g.content)
  | between {names : List String} (h : d.IsBetween root names) : HasOutline d root names
  | closed {t : Tag} {content : List Node} (stack : d.stack = [])
      (root_eq : d.root = some (t, content)) (tag : t.name = root) : HasOutline d root (elementNames content).reverse

theorem IsBetween.write {root : String} {names : List String} (h : d.IsBetween root names)
    (cs : List Char) : (d.write cs).IsBetween root names := by
  obtain ⟨hr, g, hs, ht, hn⟩ := h
  have heq : d.write cs = { d with stack := [⟨g.tag, cs.reverse.map .char ++ g.content⟩] } := by
    rw [Draft.write, hs]
  rw [heq]
  exact ⟨hr, _, rfl, ht, by simpa⟩

/-- The end of the child of the root that is open. -/
theorem IsAbove.finish_zero {g : Frame} (h : d.IsAbove 0 name [g]) :
    d.finish.IsBetween g.tag.name (name :: elementNames g.content) := by
  obtain ⟨hr, fs, f, hs, hlen, rfl⟩ := h
  obtain rfl := List.length_eq_zero_iff.1 hlen
  have heq : d.finish =
      { d with stack := [⟨g.tag, .element f.tag f.content.reverse :: g.content⟩] } := by
    rw [Draft.finish, hs]
    rfl
  rw [heq]
  exact ⟨hr, _, rfl, rfl, rfl⟩

namespace HasOutline

variable {root : String} {names : List String}

theorem write (h : d.HasOutline root names) (cs : List Char) :
    (d.write cs).HasOutline root names := by
  cases h with
  | inside above tag => exact .inside (above.write cs) tag
  | between h => exact .between (h.write cs)
  | closed stack hr tag =>
    rw [write_of_stack_eq_nil stack]
    exact .closed stack hr tag

/-- Ending an element changes nothing about it. -/
theorem finish (h : d.HasOutline root names) : d.finish.HasOutline root names := by
  cases h with
  | inside above tag =>
    next k name g =>
    cases k with
    | zero => exact .between (tag ▸ above.finish_zero)
    | succ k => exact .inside above.finish tag
  | between h =>
    obtain ⟨hr, g, hs, ht, rfl⟩ := h
    have heq : d.finish = { d with root := some (g.tag, g.content.reverse), stack := [] } := by
      rw [Draft.finish, hs]
      rfl
    rw [heq, ← List.reverse_reverse (elementNames g.content), ← elementNames_reverse]
    exact .closed rfl rfl ht
  | closed stack hr tag =>
    have heq : d.finish = d := by rw [Draft.finish, stack]
    rw [heq]
    exact .closed stack hr tag

theorem closeAll (indent : Option String) (ls : List Layout) (h : d.HasOutline root names) :
    (Sketch.closeAll indent ls d).HasOutline root names := by
  induction ls generalizing d with
  | nil => exact h
  | cons l ls ih => exact ih (h.write _).finish

/-- Once everything has been closed, the root is there. -/
theorem exists_root (h : d.HasOutline root names) (hs : d.stack = []) :
    ∃ t content, d.root = some (t, content) ∧ t.name = root ∧
      elementNames content = names.reverse := by
  cases h with
  | inside above tag => exact absurd hs above.ne_nil
  | between h =>
    obtain ⟨-, g, hg, -⟩ := h
    rw [hs] at hg
    cases hg
  | closed stack hr tag => exact ⟨_, _, hr, tag, by simp⟩

end HasOutline

end Draft

namespace Sketch

variable {indent : Option String} {s s' : Sketch} {k j : Nat} {name : String} {base : List Frame}

theorem call_of_ne {c : Call} (hc : c ≠ .endDocument) :
    s.call indent c = ((s.draft.write (Layout.before indent s.layouts c)).call c).map
      (⟨·, Layout.after s.layouts c⟩) := by
  cases c <;> first | rfl | exact absurd rfl hc

/-- A call that ends no more than its own elements leaves the frames below alone. -/
theorem call_above (h : s.draft.IsAbove k name base) {c : Call} (hk : c.opened k = some j)
    (hs : s.call indent c = some s') : s'.draft.IsAbove j name base := by
  have hc : c ≠ .endDocument := by
    rintro rfl
    cases hk
  rw [call_of_ne hc, Option.map_eq_some_iff] at hs
  obtain ⟨d, hd, rfl⟩ := hs
  exact (h.write _).call hk hd

/-- The end of an element, wherever it is. -/
theorem draft_call_endElement (hs : s.call indent .endElement = some s') :
    ∃ cs, s'.draft = (s.draft.write cs).finish := by
  rw [call_of_ne (by simp), Option.map_eq_some_iff] at hs
  obtain ⟨d, hd, rfl⟩ := hs
  simp only [Draft.call] at hd
  split at hd <;> cases hd
  exact ⟨_, rfl⟩

end Sketch

/-! ### Places -/

namespace Draft

variable {d : Draft}

/-- The number of elements that are in the outermost open element. -/
def rootCount (d : Draft) : Nat :=
  (d.stack.getLast?.map fun g => (elementNames g.content).length).getD 0

theorem rootCount_of_stack_eq {d' : Draft} (h : d'.stack = d.stack) :
    d'.rootCount = d.rootCount := by
  rw [rootCount, h, rootCount]

@[simp] theorem length_stack_addNodes (ns : List Node) :
    (d.addNodes ns).stack.length = d.stack.length := by
  unfold addNodes
  cases hs : d.stack <;> simp [hs]

/-- Only nodes in the outermost open element count. -/
theorem rootCount_addNodes (hs : d.stack ≠ []) (ns : List Node) :
    (d.addNodes ns).rootCount =
      d.rootCount + if d.stack.length = 1 then (elementNames ns).length else 0 := by
  unfold addNodes rootCount
  rcases hd : d.stack with _ | ⟨f, _ | ⟨g, rest⟩⟩
  · exact absurd hd hs
  · simp [Nat.add_comm]
  · simp [List.getLast?_cons_cons]

theorem rootCount_push (t : Tag) : (d.push t).rootCount = d.rootCount := by
  unfold push rootCount
  cases d.stack with
  | nil => rfl
  | cons f rest => simp [List.getLast?_cons_cons]

theorem rootCount_begin (hs : d.stack ≠ []) (t : Tag) (isEmpty : Bool) :
    (d.begin t isEmpty).rootCount =
      d.rootCount + if isEmpty = true ∧ d.stack.length = 1 then 1 else 0 := by
  cases isEmpty with
  | false => simpa [begin] using rootCount_push t
  | true =>
    simp only [begin, if_true, addElement_eq_addNodes hs, rootCount_addNodes hs, true_and]
    rfl

/-- The end of an element inside of another one is a node of that one. -/
theorem finish_eq_addNodes {f : Frame} {rest : List Frame} (hs : d.stack = f :: rest)
    (hne : rest ≠ []) :
    d.finish = { d with stack := rest }.addNodes [.element f.tag f.content.reverse] := by
  rw [finish, hs]
  exact addElement_eq_addNodes (d := { d with stack := rest }) hne _ _

theorem rootCount_finish {f g : Frame} {rest : List Frame} (hs : d.stack = f :: g :: rest) :
    d.finish.rootCount = d.rootCount + if rest = [] then 1 else 0 := by
  rw [finish_eq_addNodes hs (by simp), rootCount_addNodes (by simp)]
  simp [rootCount, hs, List.getLast?_cons_cons, elementNames, Node.elementName?]

theorem length_stack_finish {f : Frame} {rest : List Frame} (hs : d.stack = f :: rest) :
    d.finish.stack.length = rest.length := by
  cases rest with
  | nil => simp [finish, hs, addElement]
  | cons g rest => rw [finish_eq_addNodes hs (by simp), length_stack_addNodes]

end Draft

namespace Reader

/-- Whether the reader is in a start tag. -/
def Mode.isInTag : Mode → Bool
  | .startName _ | .between _ | .afterValue _ | .attributeName .. | .afterName .. | .beforeValue ..
  | .value .. | .valueReference .. | .slash _ => true
  | _ => false

/-- The child of the root that the reader is in, from its start tag to its end tag; none
    if it is in none. -/
def place (r : Reader) : Option Nat :=
  if 2 ≤ r.draft.stack.length + (if r.mode.isInTag then 1 else 0) then some r.draft.rootCount
  else none

/-- What a step does to the draft. -/
inductive Change (r r' : Reader) : Prop
  | keep (stack : r'.draft.stack = r.draft.stack) (root : r'.draft.root = r.draft.root)
      (inTag : r.mode.isInTag = true → r'.mode.isInTag = true)
  | add {ns : List Node} (names : elementNames ns = []) (draft : r'.draft = r.draft.addNodes ns)
      (inTag : r.mode.isInTag = false)
  | begin {t : Tag} {isEmpty : Bool} (room : r.draft.hasRoom = true)
      (draft : r'.draft = r.draft.begin t isEmpty) (inTag : r.mode.isInTag = true)
  | finish (ne_nil : r.draft.stack ≠ []) (draft : r'.draft = r.draft.finish)
      (inTag : r.mode.isInTag = false)

variable {r r' : Reader} {c : Char}

theorem change_of_open? {d : Draft} {m : Mode} {t : Tag} {isEmpty : Bool} (hm : m.isInTag = true)
    (h : open? d t isEmpty = some r') : Change ⟨d, m⟩ r' := by
  unfold open? at h
  split at h <;> cases h
  next hroom => exact .begin hroom rfl hm

theorem change_of_inTag {d : Draft} {m : Mode} {t : Tag} {mayStart : Bool} (hm : m.isInTag = true)
    (h : inTag d t mayStart c = some r') : Change ⟨d, m⟩ r' := by
  unfold inTag at h
  split at h
  · cases h; exact .keep rfl rfl fun _ => rfl
  split at h
  · exact change_of_open? hm h
  split at h
  · cases h; exact .keep rfl rfl fun _ => rfl
  split at h <;> cases h
  exact .keep rfl rfl fun _ => rfl

theorem change_of_close? {d : Draft} {m : Mode} {name : List Char} (hm : m.isInTag = false)
    (h : close? d name = some r') : Change ⟨d, m⟩ r' := by
  unfold close? at h
  split at h
  · cases h
  · next f rest hs =>
    split at h <;> cases h
    exact .finish (by simp [hs]) rfl hm

theorem change_write {d : Draft} {m m' : Mode} (hm : m.isInTag = false) (cs : List Char) :
    Change ⟨d, m⟩ ⟨d.write cs, m'⟩ :=
  .add (elementNames_chars cs) (d.write_eq_addNodes cs) hm

theorem change_addAside {d : Draft} {m m' : Mode} (hm : m.isInTag = false) (a : Aside) :
    Change ⟨d, m⟩ ⟨d.addAside a, m'⟩ := by
  by_cases hs : d.stack = []
  · refine .keep ?_ (d.root_addAside a) fun h => absurd h (by simp [hm])
    exact (d.stack_addAside_eq_nil_iff a |>.2 hs).trans hs.symm
  · exact .add rfl (d.addAside_eq_addNodes hs a) hm

theorem change_of_section? {d : Draft} {m : Mode} {part : Section} {text : List Char}
    (hm : m.isInTag = false) (h : section? d part text = some r') : Change ⟨d, m⟩ r' := by
  cases part with
  | comment => cases h; exact change_addAside hm _
  | cdata =>
    simp only [section?] at h
    split at h <;> cases h
    exact change_write hm _
  | «instruction» first =>
    simp only [section?] at h
    split at h
    · cases h
    split at h <;> cases h
    · exact .keep rfl rfl fun hx => absurd hx (by simp [hm])
    · exact change_addAside hm _

theorem change_of_plain {d : Draft} {m : Mode} (hm : m.isInTag = false)
    (h : plain d c = some r') : Change ⟨d, m⟩ r' := by
  have hkeep : ∀ m', Change ⟨d, m⟩ ⟨d, m'⟩ :=
    fun m' => .keep rfl rfl fun hx => absurd hx (by simp [hm])
  unfold plain at h
  split at h
  · split at h <;> cases h
    exact hkeep _
  split at h <;> cases h
  · exact hkeep _
  · exact change_write hm _

/-- What a step does to the draft, whatever it reads. -/
theorem change_of_step (h : r.step c = some r') : Change r r' := by
  obtain ⟨d, m⟩ := r
  have hkeep {m m' : Mode} (hm : m.isInTag = true → m'.isInTag = true) : Change ⟨d, m⟩ ⟨d, m'⟩ :=
    .keep rfl rfl hm
  cases m with
  | start | content =>
    simp only [step] at h
    split at h
    · cases h; exact hkeep id
    · exact change_of_plain rfl h
  | reference word =>
    simp only [step] at h
    split at h
    · rw [Option.map_eq_some_iff] at h
      obtain ⟨x, -, rfl⟩ := h
      exact change_write rfl _
    · cases h; exact hkeep id
  | opened first =>
    simp only [step, afterOpening] at h
    repeat' split at h
    all_goals cases h
    all_goals exact hkeep (by simp [Mode.isInTag])
  | bang word =>
    simp only [step, afterBang] at h
    repeat' split at h
    all_goals cases h
    all_goals exact hkeep (by simp [Mode.isInTag])
  | within part text =>
    simp only [step] at h
    split at h
    · exact change_of_section? rfl h
    · cases h; exact hkeep id
  | startName name =>
    simp only [step] at h
    split at h
    · exact change_of_inTag rfl h
    · cases h; exact hkeep id
  | between t => exact change_of_inTag rfl h
  | afterValue t => exact change_of_inTag rfl h
  | attributeName t name =>
    simp only [step] at h
    repeat' split at h
    all_goals cases h
    all_goals exact hkeep (fun _ => rfl)
  | afterName t name =>
    simp only [step] at h
    repeat' split at h
    all_goals cases h
    all_goals exact hkeep (fun _ => rfl)
  | beforeValue t name =>
    simp only [step] at h
    repeat' split at h
    all_goals cases h
    all_goals exact hkeep (fun _ => rfl)
  | value t name quote text =>
    simp only [step] at h
    repeat' split at h
    all_goals cases h
    all_goals exact hkeep (fun _ => rfl)
  | valueReference t name quote text word =>
    simp only [step] at h
    split at h
    · rw [Option.map_eq_some_iff] at h
      obtain ⟨x, -, rfl⟩ := h
      exact hkeep id
    · cases h; exact hkeep id
  | slash t =>
    simp only [step] at h
    split at h
    · exact change_of_open? rfl h
    · cases h
  | endName name =>
    simp only [step] at h
    split at h
    · exact change_of_close? rfl h
    repeat' split at h
    all_goals cases h
    all_goals exact hkeep (by simp [Mode.isInTag])
  | afterEndName name =>
    simp only [step] at h
    split at h
    · exact change_of_close? rfl h
    repeat' split at h
    all_goals cases h
    all_goals exact hkeep (by simp [Mode.isInTag])

/-- The reader has left a child of the root, or even the root itself. -/
def IsPast (i : Nat) (r : Reader) : Prop :=
  (r.draft.root.isSome = true ∧ r.draft.stack = []) ∨ i < r.draft.rootCount

theorem place_eq_some_iff {i : Nat} : r.place = some i ↔
    2 ≤ r.draft.stack.length + (if r.mode.isInTag then 1 else 0) ∧ r.draft.rootCount = i := by
  unfold place
  split <;> simp_all

theorem not_isPast_of_place {i : Nat} (h : r.place = some i) : ¬ r.IsPast i := by
  obtain ⟨hlen, rfl⟩ := place_eq_some_iff.1 h
  rintro (⟨-, hs⟩ | hlt)
  · rw [hs] at hlen
    split at hlen <;> simp at hlen
  · exact absurd hlt (Nat.lt_irrefl _)

/-- There is no way back into a child of the root. -/
theorem IsPast.step {i : Nat} (h : r.IsPast i) (hs : r.step c = some r') : r'.IsPast i := by
  have hchange := change_of_step hs
  rcases h with ⟨hroot, hnil⟩ | hlt
  · left
    cases hchange with
    | keep stack root inTag => exact ⟨by rw [root, hroot], by rw [stack, hnil]⟩
    | add names draft inTag =>
      have heq : r'.draft = r.draft := by rw [draft, Draft.addNodes, hnil]
      exact ⟨by rw [heq, hroot], by rw [heq, hnil]⟩
    | begin room draft inTag =>
      simp [Draft.hasRoom, hnil, Option.isSome_iff_ne_none.1 hroot] at room
    | finish ne_nil draft inTag => exact absurd hnil ne_nil
  · have hne : r.draft.stack ≠ [] := by
      intro hnil
      simp [Draft.rootCount, hnil] at hlt
    cases hchange with
    | keep stack root inTag =>
      right
      rwa [Draft.rootCount_of_stack_eq stack]
    | add names draft inTag =>
      right
      rw [draft, Draft.rootCount_addNodes hne]
      exact Nat.lt_add_right _ hlt
    | begin room draft inTag =>
      right
      rw [draft, Draft.rootCount_begin hne]
      exact Nat.lt_add_right _ hlt
    | finish ne_nil draft inTag =>
      rcases hd : r.draft.stack with _ | ⟨f, _ | ⟨g, rest⟩⟩
      · exact absurd hd hne
      · left
        rw [draft, Draft.finish, hd]
        exact ⟨rfl, rfl⟩
      · right
        rw [draft, Draft.rootCount_finish hd]
        exact Nat.lt_add_right _ hlt

theorem IsPast.feed {i : Nat} (h : r.IsPast i) {cs : List Char} (hf : r.feed cs = some r') :
    r'.IsPast i := by
  induction cs generalizing r with
  | nil =>
    cases hf
    exact h
  | cons c cs ih =>
    rw [feed_cons, Option.bind_eq_some_iff] at hf
    obtain ⟨q, hq, hf⟩ := hf
    exact ih (h.step hq) hf

/-- The reader stays in a child of the root, or leaves it for good. -/
theorem place_step {i : Nat} (h : r.place = some i) (hs : r.step c = some r') :
    r'.place = some i ∨ r'.IsPast i := by
  obtain ⟨hlen, rfl⟩ := place_eq_some_iff.1 h
  have hne : r.draft.stack ≠ [] := by
    intro hnil
    rw [hnil] at hlen
    split at hlen <;> simp at hlen
  cases change_of_step hs with
  | keep stack root inTag =>
    refine .inl (place_eq_some_iff.2 ⟨?_, Draft.rootCount_of_stack_eq stack⟩)
    rw [stack]
    split at hlen
    · next ht => rwa [if_pos (inTag ht)]
    · exact Nat.le_trans hlen (Nat.le_add_right _ _)
  | add names draft inTag =>
    simp only [inTag, Bool.false_eq_true, if_false, Nat.add_zero] at hlen
    refine .inl (place_eq_some_iff.2 ⟨?_, ?_⟩)
    · rw [draft, Draft.length_stack_addNodes]
      exact Nat.le_trans hlen (Nat.le_add_right _ _)
    · rw [draft, Draft.rootCount_addNodes hne, names]
      simp
  | @begin t isEmpty room draft inTag =>
    by_cases hone : isEmpty = true ∧ r.draft.stack.length = 1
    · right
      right
      rw [draft, Draft.rootCount_begin hne, if_pos hone]
      exact Nat.lt_succ_self _
    · left
      refine place_eq_some_iff.2 ⟨?_, by rw [draft, Draft.rootCount_begin hne, if_neg hone]; rfl⟩
      simp only [inTag, if_true] at hlen
      rw [draft]
      cases isEmpty with
      | false => exact Nat.le_trans hlen (Nat.le_add_right _ _)
      | true =>
        simp only [true_and] at hone
        simp only [Draft.begin, if_true, Draft.addElement_eq_addNodes hne,
          Draft.length_stack_addNodes]
        omega
  | finish ne_nil draft inTag =>
    simp only [inTag, Bool.false_eq_true, if_false, Nat.add_zero] at hlen
    rcases hd : r.draft.stack with _ | ⟨f, _ | ⟨g, _ | ⟨x, rest⟩⟩⟩
    · exact absurd hd hne
    · simp [hd] at hlen
    · right
      right
      rw [draft, Draft.rootCount_finish hd]
      exact Nat.lt_succ_self _
    · left
      refine place_eq_some_iff.2 ⟨?_, by rw [draft, Draft.rootCount_finish hd]; simp⟩
      rw [draft, Draft.length_stack_finish hd]
      simp only [List.length_cons]
      omega

/-- Between two places in the same child of the root the reader does not leave it. -/
theorem exists_place_of_append {i : Nat} {cs ds : List Char} (h : r.place = some i)
    (hf : r.feed (cs ++ ds) = some r') (h' : r'.place = some i) :
    ∃ q, r.feed cs = some q ∧ q.place = some i := by
  induction cs generalizing r with
  | nil => exact ⟨r, rfl, h⟩
  | cons c cs ih =>
    rw [List.cons_append, feed_cons, Option.bind_eq_some_iff] at hf
    obtain ⟨q, hq, hf⟩ := hf
    rcases place_step h hq with hin | hpast
    · obtain ⟨p, hp, hin⟩ := ih hin hf
      exact ⟨p, (feed_of_cons hq).trans hp, hin⟩
    · exact absurd (hpast.feed hf) (not_isPast_of_place h')

end Reader

/-! ### Following calls inside of a child of the root -/

namespace Writer

/-- No start tag is open after an end tag. -/
theorem pending_endElement (w : Writer) : (w.step .endElement).writer.pending = false := by
  rw [step]
  rcases w.endElement_cases with ⟨-, -, -, -, -, heq⟩ | heq
  · rw [heq]
    rfl
  · rw [heq, andThen_of_error_eq_none w.closeTag_error, closeElement]
    split <;> exact w.pending_closeTag

theorem pending_endDocument (w : Writer) : w.endDocument.writer.pending = false := by
  rw [endDocument, andThen_of_error_eq_none w.closeTag_error]
  exact w.pending_closeTag

end Writer

namespace Follower

variable {indent : Option String} {w : Writer} {r : Reader} {s s' : Sketch} {c : Call}

/-- The reader is in the child of the root that the sketch has open. -/
theorem place_eq (h : Follower indent w r s) {k : Nat} {name : String} {g : Frame}
    (ha : s.draft.IsAbove k name [g]) : r.place = some (elementNames g.content).length := by
  obtain ⟨hroot, fs, f, hs, -⟩ := ha
  have hcount : s.draft.rootCount = (elementNames g.content).length := by
    simp [Draft.rootCount, hs]
  have hlen : 2 ≤ s.draft.stack.length := by simp [hs]
  rw [Reader.place_eq_some_iff, ← hcount]
  cases h with
  | settled h => rw [← h.draft]; exact ⟨Nat.le_trans hlen (Nat.le_add_right _ _), rfl⟩
  | inTag e es t h =>
    have hmode : r.mode.isInTag = true := by
      have := h.tag
      revert this
      cases r.mode <;> simp [Reader.Mode.tag?, Reader.Mode.isInTag]
    have hdraft := h.draft
    rw [hmode]
    cases he : e.isEmpty with
    | false =>
      rw [he] at hdraft
      rw [hdraft] at hlen ⊢
      exact ⟨hlen, (Draft.rootCount_push t).symm⟩
    | true =>
      -- The sketch has an empty element already that the reader adds with the end of the tag.
      rw [he] at hdraft
      have hne : r.draft.stack ≠ [] := by
        intro hnil
        rw [hdraft] at hlen
        simp [Draft.begin, Draft.addElement, hnil] at hlen
      have hlen' : r.draft.stack.length = s.draft.stack.length := by
        rw [hdraft]
        simp [Draft.begin, Draft.addElement_eq_addNodes hne]
      refine ⟨by omega, ?_⟩
      rw [hdraft, Draft.rootCount_begin hne, if_neg (by omega)]
      rfl

theorem draft_eq (h : Follower indent w r s) (hp : w.pending = false) : r.draft = s.draft := by
  cases h with
  | settled h => exact h.draft.symm
  | inTag e es t h => rw [h.pending] at hp; cases hp

/-- A call that ends an element around the open ones leads out of the child of the root. -/
theorem isPast_of_opened (h : Follower indent (w.step c).writer r s') {k : Nat} {name : String}
    {g : Frame} (ha : s.draft.IsAbove k name [g]) (hk : c.opened k = none)
    (he : (w.step c).error = none) (hs : s.call indent c.asRead = some s') :
    r.IsPast (elementNames g.content).length := by
  cases c with
  | endElement =>
    cases k with
    | succ k => cases hk
    | zero =>
      -- The child of the root ends, so from now on it counts.
      obtain ⟨cs, hd⟩ := Sketch.draft_call_endElement hs
      obtain ⟨-, g', hg', -, hn⟩ := (ha.write cs).finish_zero
      right
      rw [h.draft_eq (Writer.pending_endElement w), hd]
      simp [Draft.rootCount, hg', hn]
  | endDocument =>
    left
    have hstack : s'.draft.stack = [] := (h.tree? (Writer.endDocument_spec w).2).2
    have houtline := Draft.HasOutline.closeAll indent s.layouts (.inside ha rfl)
    rw [h.draft_eq (Writer.pending_endDocument w)]
    cases hs
    obtain ⟨t, content, ht, -⟩ := houtline.exists_root hstack
    exact ⟨by rw [ht]; rfl, hstack⟩
  | _ => cases hk

/-- Calls inside of a child of the root do what they do above what was open before, or
    lead out of it for good. -/
theorem run_above (hi : IsBlankIndent indent) (h : Follower indent w r s) (hst : w.started = true)
    {k : Nat} {name : String} {g : Frame} (ha : s.draft.IsAbove k name [g]) (cs : List Call) :
    ∃ r' s', r.feed (w.output cs) = some r' ∧ Follower indent (w.after cs) r' s' ∧
      match opened k (w.accepted cs) with
      | some j => s'.draft.IsAbove j name [g]
      | none => r'.IsPast (elementNames g.content).length := by
  induction cs generalizing w r s k with
  | nil => exact ⟨r, s, rfl, h, ha⟩
  | cons c cs ih =>
    obtain ⟨r₁, hr₁, s₁, h₁, hs₁⟩ := h.step hi (.inl hst)
    have hst₁ := Writer.started_step hst c
    rw [Writer.accepted]
    split at hs₁
    · next he =>
      rw [if_pos he, opened]
      cases hk : c.opened k with
      | some j =>
        have ha₁ := Sketch.call_above ha ((Call.opened_asRead k c).trans hk) hs₁
        obtain ⟨r', s', hr', h', hj⟩ := ih h₁ hst₁ ha₁
        exact ⟨r', s', (Reader.feed_of_append hr₁).trans hr', h', hj⟩
      | none =>
        -- What is called from here on does not lead back.
        have hpast := h₁.isPast_of_opened ha hk (Option.isNone_iff_eq_none.1 he) hs₁
        have hfirst : (w.step c).writer.started = true ∨ ∀ c ∈ cs, c.MayComeFirst := .inl hst₁
        obtain ⟨r', s', hr', -, -, h'⟩ := h₁.run hi hfirst
        exact ⟨r', s', (Reader.feed_of_append hr₁).trans hr', h', hpast.feed hr'⟩
    · next he =>
      rw [if_neg he]
      subst hs₁
      obtain ⟨r', s', hr', h', hj⟩ := ih h₁ hst₁ ha
      exact ⟨r', s', (Reader.feed_of_append hr₁).trans hr', h', hj⟩

end Follower

end InstallerKit.Markup
