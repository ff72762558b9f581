import InstallerKit.Fragment.Builder
import InstallerKit.Proofs.Fragment.Source
import InstallerKit.Proofs.Markup.Nesting
import InstallerKit.Proofs.Session

/-!
# Fragments and what producers write in them

A builder starts a fragment before each producer and ends one after it, whatever the
producer does in between. Nothing checks that these are the same. If a build succeeds,
there is one fragment for each producer, with all that the producer has written in it,
exactly if no producer ends an element that it did not start, and each but the last
one ends all that it starts. What the last one leaves open is closed with the document.

* `Passage`: a part of a document that a producer has written;
* `IsWrapped`: one fragment for each passage, with the passage in it;
* `isWrapped_build_iff`: when a build that has generated its fragments has wrapped
  them.
-/

namespace InstallerKit.Fragment

open Markup

/-- A part of a document that a producer has written. -/
structure Passage where
  /-- What has been written before it. -/
  before : List Char
  text : List Char
  /-- The calls of the producer that were not refused. -/
  calls : List Call

/-- What producers write, each in a fragment, on a writer that has already written
    something. -/
def passages (element : String) : List Producer → Writer → List Char → List Passage
  | [], _, _ => []
  | p :: ps, w, before =>
    let v := w.after [.startElement element]
    let calls := (p.toScript.mapCalls Call.escaped).made v
    let u := v.after calls
    let start := before ++ w.output [.startElement element]
    ⟨start, v.output calls, v.accepted calls⟩ ::
      passages element ps (u.after [.endElement])
        (start ++ v.output calls ++ u.output [.endElement])

/-- All of a passage is in one child of the root. -/
def Passage.LiesIn (p : Passage) (i : Nat) : Prop :=
  ∀ u v, p.text = u ++ v → ∃ r, Reader.fresh.feed (p.before ++ u) = some r ∧ r.place = some i

/-! ### The calls of fragments -/

section Fragments

variable {element : String} {p : Producer} {ps : List Producer} {w : Writer}

theorem mapCalls_fragments_cons (element : String) (p : Producer) (ps : List Producer) :
    (Producer.fragments element (p :: ps)).mapCalls Call.escaped =
      ((Script.ofCalls [.startElement element]).andThen
        ((p.toScript.mapCalls Call.escaped).andThen (.ofCalls [.endElement]))).andThen
          ((Producer.fragments element ps).mapCalls Call.escaped) := by
  have hstart : (Script.ofCalls [.startElement element]).mapCalls Call.escaped =
      .ofCalls [.startElement element] := Script.mapCalls_ofCalls rfl
  have hend : (Script.ofCalls [.endElement]).mapCalls Call.escaped = .ofCalls [.endElement] :=
    Script.mapCalls_ofCalls rfl
  rw [Producer.fragments, Producer.wrapped, Script.mapCalls_andThen, Script.mapCalls_andThen,
    Script.mapCalls_andThen, hstart, hend]

/-- If no fragment fails, the calls of each are made one after the other. -/
theorem fragments_cons
    (h : (((Producer.fragments element (p :: ps)).mapCalls Call.escaped).run w).fault = none) :
    let v := w.after [.startElement element]
    let calls := (p.toScript.mapCalls Call.escaped).made v
    let x := (v.after calls).after [.endElement]
    w.Takes [.startElement element] ∧ (v.after calls).Takes [.endElement] ∧
      (((Producer.fragments element ps).mapCalls Call.escaped).run x).fault = none ∧
      ((Producer.fragments element (p :: ps)).mapCalls Call.escaped).made w =
        [.startElement element] ++ calls ++ [.endElement] ++
          ((Producer.fragments element ps).mapCalls Call.escaped).made x := by
  rw [mapCalls_fragments_cons] at h ⊢
  obtain ⟨hwrapped, hrest, hmade⟩ := Script.andThen_of_fault_eq_none h
  obtain ⟨hstart, hinner, hmade'⟩ := Script.andThen_of_fault_eq_none hwrapped
  rw [(Script.run_ofCalls _ _).1] at hstart
  rw [Script.made_ofCalls hstart] at hinner hmade'
  obtain ⟨-, hend, hmade''⟩ := Script.andThen_of_fault_eq_none hinner
  rw [(Script.run_ofCalls _ _).1] at hend
  rw [Script.made_ofCalls hend] at hmade''
  rw [hmade', hmade''] at hrest hmade
  simp only [Writer.after_append] at hrest hmade
  exact ⟨hstart, hend, hrest, by rw [hmade]; simp⟩

end Fragments

/-! ### One fragment -/

section Stage

variable {indent : Option String} (hi : IsBlankIndent indent) {w : Writer} {r : Reader} {s : Sketch}
include hi

/-- The answer to a call that is taken. -/
theorem follow_taken (h : Follower indent w r s) (hst : w.started = true) {c : Call}
    (ht : w.Takes [c]) : ∃ r' s', r.feed (w.output [c]) = some r' ∧
      s.call indent c.asRead = some s' ∧ Follower indent (w.after [c]) r' s' := by
  obtain ⟨r', hr, s', h', hs⟩ := h.step hi (.inl hst)
  rw [ht.1] at hs
  exact ⟨r', s', by simpa [Writer.output] using hr, hs, h'⟩

/-- What comes of the start of a fragment between two children of the root. -/
theorem follow_start (h : Follower indent w r s) (hst : w.started = true) {root element : String}
    {names : List String} (hb : s.draft.IsBetween root names)
    (ht : w.Takes [.startElement element]) :
    ∃ r' s' g, r.feed (w.output [.startElement element]) = some r' ∧
      Follower indent (w.after [.startElement element]) r' s' ∧
      s'.draft.IsAbove 0 (bareName element) [g] ∧ g.tag.name = root ∧
      elementNames g.content = names := by
  obtain ⟨r', s', hr, hs, h'⟩ := follow_taken hi h hst ht
  obtain ⟨hroot, g, hg, htag, hnames⟩ := hb.write (Layout.lead indent s.layouts)
  have hne : s.draft.stack ≠ [] := by
    obtain ⟨-, g, hg, -⟩ := hb
    simp [hg]
  obtain rfl := Option.some.inj ((Sketch.call_begin hne (bareName element) false).symm.trans hs)
  refine ⟨r', _, g, hr, h', ⟨hroot, [], ⟨⟨bareName element, []⟩, []⟩, ?_, rfl, rfl⟩, htag, hnames⟩
  simp [Draft.begin, Draft.push, hg]

/-- What comes of a fragment between two children of the root: the reader is in a new
    child when its producer begins. It still is when the producer is done, unless the
    producer has ended too much, and the fragment ends with its end tag unless the
    producer has left something open. -/
theorem follow_fragment (h : Follower indent w r s) (hst : w.started = true) {root element : String}
    {names : List String} (hb : s.draft.IsBetween root names) (calls : List Call)
    (hstart : w.Takes [.startElement element])
    (hend : ((w.after [.startElement element]).after calls).Takes [.endElement]) :
    ∃ r₁ r₂ r₃ s₃, r.feed (w.output [.startElement element]) = some r₁ ∧
      r₁.feed ((w.after [.startElement element]).output calls) = some r₂ ∧
      r₂.feed (((w.after [.startElement element]).after calls).output [.endElement]) = some r₃ ∧
      Follower indent (((w.after [.startElement element]).after calls).after [.endElement]) r₃ s₃ ∧
      r₁.place = some names.length ∧
      match opened 0 ((w.after [.startElement element]).accepted calls) with
      | none => r₂.IsPast names.length
      | some 0 => r₂.place = some names.length ∧
        s₃.draft.IsBetween root (bareName element :: names)
      | some (k + 1) => r₂.place = some names.length ∧ ∃ g : Frame, g.tag.name = root ∧
        elementNames g.content = names ∧ s₃.draft.IsAbove k (bareName element) [g] := by
  obtain ⟨r₁, s₁, g, hr₁, h₁, ha₁, htag, rfl⟩ := follow_start hi h hst hb hstart
  have hst₁ := Writer.started_after hst [.startElement element]
  obtain ⟨r₂, s₂, hr₂, h₂, hk⟩ := h₁.run_above hi hst₁ ha₁ calls
  obtain ⟨r₃, s₃, hr₃, hs₃, h₃⟩ := follow_taken hi h₂ (Writer.started_after hst₁ calls) hend
  refine ⟨r₁, r₂, r₃, s₃, hr₁, hr₂, hr₃, h₃, h₁.place_eq ha₁, ?_⟩
  -- The end tag ends the fragment, or the latest of the elements that have been left open.
  match ho : opened 0 ((w.after [.startElement element]).accepted calls) with
  | none => simpa [ho] using hk
  | some 0 =>
    rw [ho] at hk
    obtain ⟨cs, hd⟩ := Sketch.draft_call_endElement hs₃
    refine ⟨h₂.place_eq hk, ?_⟩
    rw [hd]
    exact htag ▸ (hk.write cs).finish_zero
  | some (k + 1) =>
    rw [ho] at hk
    obtain ⟨cs, hd⟩ := Sketch.draft_call_endElement hs₃
    refine ⟨h₂.place_eq hk, g, htag, rfl, ?_⟩
    rw [hd]
    exact (hk.write cs).finish

end Stage

/-! ### All fragments -/

/-- A passage is in one child of the root if the reader is in it before and after. -/
theorem liesIn_of_place {p : Passage} {i : Nat} {r₁ r₂ : Reader}
    (h₁ : Reader.fresh.feed p.before = some r₁) (hp₁ : r₁.place = some i)
    (h₂ : r₁.feed p.text = some r₂) (hp₂ : r₂.place = some i) : p.LiesIn i := by
  intro u v hu
  rw [hu] at h₂
  obtain ⟨q, hq, hplace⟩ := Reader.exists_place_of_append hp₁ h₂ hp₂
  exact ⟨q, (Reader.feed_of_append h₁).trans hq, hplace⟩

/-- The reader is in the child of the root when a passage that lies in it ends. -/
theorem Passage.LiesIn.place {p : Passage} {i : Nat} (h : p.LiesIn i) {r₁ r₂ : Reader}
    (h₁ : Reader.fresh.feed p.before = some r₁) (h₂ : r₁.feed p.text = some r₂) :
    r₁.place = some i ∧ r₂.place = some i := by
  obtain ⟨q₁, hq₁, hp₁⟩ := h [] p.text rfl
  obtain ⟨q₂, hq₂, hp₂⟩ := h p.text [] (by simp)
  rw [List.append_nil, h₁] at hq₁
  rw [Reader.feed_of_append h₁, h₂] at hq₂
  exact ⟨Option.some.inj hq₁ ▸ hp₁, Option.some.inj hq₂ ▸ hp₂⟩

/-- Each passage lies in a child of the root of its own, the first one in the `n`-th. -/
def LieInOrder (ps : List Passage) (n : Nat) : Prop :=
  ∀ i p, ps[i]? = some p → Passage.LiesIn p (n + i)

/-- No producer has ended an element that it had not started, and all but the last one
    have ended all that they had started. -/
def AreComplete (ps : List Passage) : Prop :=
  (∀ p ∈ ps.dropLast, opened 0 p.calls = some 0) ∧ ∀ p ∈ ps.getLast?, (opened 0 p.calls).isSome

instance (ps : List Passage) : Decidable (AreComplete ps) :=
  inferInstanceAs (Decidable ((∀ p ∈ ps.dropLast, _) ∧ ∀ p ∈ ps.getLast?, _))

theorem lieInOrder_cons {p : Passage} {ps : List Passage} {n : Nat} :
    LieInOrder (p :: ps) n ↔ p.LiesIn n ∧ LieInOrder ps (n + 1) := by
  constructor
  · refine fun h => ⟨h 0 p rfl, fun i q hq => ?_⟩
    rw [Nat.add_assoc, Nat.add_comm 1 i]
    exact h (i + 1) q hq
  · rintro ⟨hp, hps⟩ i q hq
    cases i with
    | zero =>
      obtain rfl : p = q := by simpa using hq
      exact hp
    | succ i =>
      rw [Nat.add_comm i 1, ← Nat.add_assoc]
      exact hps i q hq

theorem areComplete_singleton {p : Passage} : AreComplete [p] ↔ (opened 0 p.calls).isSome := by
  simp [AreComplete]

theorem areComplete_cons_cons {p q : Passage} {ps : List Passage} :
    AreComplete (p :: q :: ps) ↔ opened 0 p.calls = some 0 ∧ AreComplete (q :: ps) := by
  simp [AreComplete, and_assoc]

theorem AreComplete.isSome_head {p : Passage} {ps : List Passage} (h : AreComplete (p :: ps)) :
    (opened 0 p.calls).isSome := by
  cases ps with
  | nil => exact areComplete_singleton.1 h
  | cons q ps => rw [(areComplete_cons_cons.1 h).1]; rfl

theorem areComplete_cons_of_zero {p : Passage} {ps : List Passage} (h : opened 0 p.calls = some 0) :
    AreComplete (p :: ps) ↔ AreComplete ps := by
  cases ps with
  | nil => simp [AreComplete, h]
  | cons q ps => rw [areComplete_cons_cons, and_iff_right h]

section All

variable {indent : Option String} (hi : IsBlankIndent indent) {w : Writer} {r : Reader} {s : Sketch}
  {root element : String} {names : List String} {before : List Char} {ps : List Producer}
include hi

/-- From a place between two children of the root on, each passage lies in a child of
    its own if, and only if, the producers are complete. Then the root gets no other
    children. -/
theorem lieInOrder_passages_iff (h : Follower indent w r s) (hst : w.started = true)
    (hb : s.draft.IsBetween root names) (hf : Reader.fresh.feed before = some r)
    (hrun : (((Producer.fragments element ps).mapCalls Call.escaped).run w).fault = none) :
    (LieInOrder (passages element ps w before) names.length ↔
        AreComplete (passages element ps w before)) ∧
      (AreComplete (passages element ps w before) → ∃ r' s',
        r.feed (w.output (((Producer.fragments element ps).mapCalls Call.escaped).made w)) =
          some r' ∧
        Follower indent (w.after (((Producer.fragments element ps).mapCalls Call.escaped).made w))
          r' s' ∧
        s'.draft.HasOutline root (List.replicate ps.length (bareName element) ++ names)) := by
  induction ps generalizing w r s names before with
  | nil =>
    refine ⟨?_, fun _ => ⟨r, s, rfl, h, .between hb⟩⟩
    simp [passages, LieInOrder, AreComplete]
  | cons p ps ih =>
    obtain ⟨hstart, hend, hrest, hmade⟩ := fragments_cons hrun
    obtain ⟨r₁, r₂, r₃, s₃, hr₁, hr₂, hr₃, h₃, hp₁, hk⟩ := follow_fragment hi h hst hb _ hstart hend
    have hf₁ := (Reader.feed_of_append hf).trans hr₁
    have hf₃ := (Reader.feed_of_append ((Reader.feed_of_append hf₁).trans hr₂)).trans hr₃
    have hst₃ := Writer.started_after (Writer.started_after (Writer.started_after hst
      [.startElement element]) ((p.toScript.mapCalls Call.escaped).made
        (w.after [.startElement element]))) [.endElement]
    rw [hmade]
    simp only [Writer.output_append, Writer.after_append, List.append_assoc,
      Reader.feed_of_append hr₁, Reader.feed_of_append hr₂, Reader.feed_of_append hr₃]
    rw [passages, lieInOrder_cons]
    -- What the producer of the first passage has left open, if it has not ended too much.
    match ho : opened 0 ((w.after [.startElement element]).accepted
      ((p.toScript.mapCalls Call.escaped).made (w.after [.startElement element]))) with
    | none =>
      rw [ho] at hk
      refine ⟨⟨fun hl => ?_, fun hc => ?_⟩, fun hc => ?_⟩
      · exact absurd hk (Reader.not_isPast_of_place (hl.1.place hf₁ hr₂).2)
      · exact absurd hc.isSome_head (by simp [ho])
      · exact absurd hc.isSome_head (by simp [ho])
    | some 0 =>
      rw [ho] at hk
      obtain ⟨hin, hout⟩ := ih h₃ hst₃ hk.2 hf₃ hrest
      rw [areComplete_cons_of_zero ho]
      refine ⟨?_, fun hc => ?_⟩
      · exact (and_iff_right (liesIn_of_place hf₁ hp₁ hr₂ hk.1)).trans hin
      · obtain ⟨r', s', hr', h', ho'⟩ := hout hc
        refine ⟨r', s', hr', h', ?_⟩
        rwa [List.length_cons, List.replicate_succ', List.append_assoc]
    | some (k + 1) =>
      rw [ho] at hk
      obtain ⟨hp₂, g, htag, rfl, ha⟩ := hk
      cases ps with
      | nil =>
        refine ⟨?_, fun _ => ⟨r₃, s₃, rfl, h₃, .inside ha htag⟩⟩
        rw [passages, areComplete_singleton, ho]
        refine iff_of_true ⟨liesIn_of_place hf₁ hp₁ hr₂ hp₂, by simp [LieInOrder]⟩ rfl
      | cons q ps =>
        -- The next fragment starts in this one.
        obtain ⟨hstart', -⟩ := fragments_cons hrest
        obtain ⟨r₄, s₄, hr₄, hs₄, h₄⟩ := follow_taken hi h₃ hst₃ hstart'
        have ha₄ := Sketch.call_above ha (Call.opened_asRead k _ |>.trans rfl) hs₄
        rw [passages, lieInOrder_cons, areComplete_cons_cons, ho]
        refine ⟨iff_of_false (fun hl => ?_) (by simp), fun hc => absurd hc.1 (by simp)⟩
        obtain ⟨r', hr', hplace⟩ := hl.2.1 [] _ rfl
        rw [List.append_nil, Reader.feed_of_append hf₃, hr₄] at hr'
        obtain rfl := Option.some.inj hr'
        rw [h₄.place_eq ha₄] at hplace
        exact absurd (Option.some.inj hplace) (Nat.ne_of_lt (Nat.lt_succ_self _))

end All

/-! ### Documents -/

/-- What producers write in a source. -/
def sourcePassages (element : String) (ps : List Producer) : List Passage :=
  let w := Writer.fresh (some Document.standardIndent)
  let start := sourceStart Document.standardEncoding
  passages element ps (w.after start) (w.output start)

/-- A text is a document with a root element of one name, in which there are as many
    elements of another name as there are passages, and the passages are parts of the
    text, each in the element of its turn. -/
structure IsWrapped (root element : String) (text : List Char) (ps : List Passage) : Prop where
  elements : ∃ t tag content, read text = some t ∧ t.root = some (tag, content) ∧ tag.name = root ∧
    elementNames content = List.replicate ps.length element
  parts : ∀ p ∈ ps, p.before ++ p.text <+: text
  inOrder : LieInOrder ps 0

theorem length_passages (element : String) (ps : List Producer) (w : Writer) (before : List Char) :
    (passages element ps w before).length = ps.length := by
  induction ps generalizing w before with
  | nil => rfl
  | cons p ps ih => simp [passages, ih]

/-- The passages are parts of what the fragments write. -/
theorem prefix_of_mem_passages {element : String} {ps : List Producer} {w : Writer}
    (h : (((Producer.fragments element ps).mapCalls Call.escaped).run w).fault = none)
    {before : List Char} {p : Passage} (hp : p ∈ passages element ps w before) :
    p.before ++ p.text <+:
      before ++ w.output (((Producer.fragments element ps).mapCalls Call.escaped).made w) := by
  induction ps generalizing w before with
  | nil => cases hp
  | cons q ps ih =>
    obtain ⟨-, -, hrest, hmade⟩ := fragments_cons h
    rw [hmade]
    simp only [Writer.output_append, Writer.after_append]
    rcases List.mem_cons.1 hp with rfl | hp
    · simp only [List.append_assoc, List.prefix_append_right_inj]
      exact List.prefix_append _ _
    · rw [← List.append_assoc, ← List.append_assoc, ← List.append_assoc]
      exact ih hrest hp

section Documents

variable {content : Script} {text : List Char}

/-- A source is its start, its content, and its end, and they go well if it is rendered. -/
theorem render_source {indent : Option String} {encoding : String}
    (h : Document.render indent encoding (source content) = .ok text) :
    let w := (Writer.fresh indent).after (sourceStart encoding)
    let calls := (content.mapCalls Call.escaped).made w
    ((content.mapCalls Call.escaped).run w).fault = none ∧
      (w.after calls).Takes [.endElement, .endDocument] ∧
      text = (Writer.fresh indent).output (sourceStart encoding) ++
        (w.output calls ++ (w.after calls).output [.endElement, .endDocument]) := by
  have hstart := (leads_sourceStart indent encoding).1.2 trivial
  rw [Document.render, complete_source] at h
  split at h
  · cases h
  · next hfault =>
    cases h
    obtain ⟨-, hrest, hmade⟩ := Script.andThen_of_fault_eq_none hfault
    rw [Script.made_ofCalls hstart] at hrest hmade
    obtain ⟨hcontent, hend, hmade'⟩ := Script.andThen_of_fault_eq_none hrest
    have hend := (Script.run_ofCalls _ _).1.1 hend
    refine ⟨hcontent, hend, ?_⟩
    rw [Script.run_text, hmade, hmade', Script.made_ofCalls hend, Writer.output_append,
      Writer.output_append]

/-- What comes of the start of a source. -/
theorem follow_sourceStart {indent : Option String} (hi : IsBlankIndent indent) :
    ∃ r s,
      Reader.fresh.feed ((Writer.fresh indent).output (sourceStart Document.standardEncoding)) =
        some r ∧
      Follower indent ((Writer.fresh indent).after (sourceStart Document.standardEncoding)) r s ∧
      s.draft.IsBetween rootElement [] := by
  have hplain : ∀ c ∈ sourceStart Document.standardEncoding, c.IsPlain := by
    simp only [sourceStart, List.forall_mem_cons]
    exact ⟨⟨rfl, rfl⟩, (by decide : '\n' ∉ rootElement.toList), trivial,
      (by decide : '\n' ∉ utilityLabel.toList), by simp⟩
  have hcalls := ((leads_sourceStart indent Document.standardEncoding).1.2 trivial).accepted
  obtain ⟨r, s, hr, hs, -, h⟩ := (Follower.fresh indent).run hi
    (.inr fun c hc => (hplain c hc).mayComeFirst)
  rw [hcalls, Sketch.calls_map_asRead hplain] at hs
  obtain rfl : _ = s := Option.some.inj hs
  exact ⟨r, _, hr, h, rfl, _, rfl, rfl, rfl⟩

/-- What comes of the end of a source. -/
theorem follow_sourceEnd {indent : Option String} (hi : IsBlankIndent indent) {w : Writer}
    {r : Reader} {s : Sketch} (h : Follower indent w r s) (hst : w.started = true) {root : String}
    {names : List String} (ho : s.draft.HasOutline root names)
    (ht : w.Takes [.endElement, .endDocument]) :
    ∃ r' t tag content, r.feed (w.output [.endElement, .endDocument]) = some r' ∧
      r'.tree? = some t ∧ t.root = some (tag, content) ∧ tag.name = root ∧
      elementNames content = names.reverse := by
  obtain ⟨hend, hclose, -⟩ := ht
  obtain ⟨r₁, s₁, hr₁, hs₁, h₁⟩ := follow_taken hi h hst ⟨hend, trivial⟩
  obtain ⟨r₂, s₂, hr₂, hs₂, h₂⟩ := follow_taken hi h₁ (Writer.started_after hst _) ⟨hclose, trivial⟩
  obtain ⟨htree, hnil⟩ := h₂.tree? (Writer.endDocument_spec _).2
  obtain ⟨cs, hd⟩ := Sketch.draft_call_endElement hs₁
  have hclosed : s₂.draft.HasOutline root names := by
    cases hs₂
    rw [hd]
    exact (ho.write cs).finish.closeAll _ _
  obtain ⟨tag, content, hroot, hname, hnames⟩ := hclosed.exists_root hnil
  have hfeed : r.feed (w.output ([.endElement] ++ [.endDocument])) = some r₂ := by
    rw [Writer.output_append]
    exact (Reader.feed_of_append hr₁).trans hr₂
  have ht : s₂.draft.tree? = some ⟨s₂.draft.declaration, s₂.draft.prolog.reverse, s₂.draft.root,
      s₂.draft.epilog.reverse⟩ := by
    rw [Draft.tree?, hnil]
    rfl
  exact ⟨r₂, _, tag, content, hfeed, htree.trans ht, hroot, hname, hnames⟩

/-- A source that is rendered has wrapped what its producers write if, and only if, they
    are complete. -/
theorem isWrapped_iff_of_render {element : String} {ps : List Producer}
    (h : Document.render (some Document.standardIndent) Document.standardEncoding
      (source (Producer.fragments element ps)) = .ok text) :
    IsWrapped rootElement (bareName element) text (sourcePassages element ps) ↔
      AreComplete (sourcePassages element ps) := by
  have hi := isBlankIndent_standardIndent
  obtain ⟨hrun, hend, rfl⟩ := render_source h
  obtain ⟨r, s, hr, hs, hb⟩ := follow_sourceStart hi
  have hst : ((Writer.fresh (some Document.standardIndent)).after
      (sourceStart Document.standardEncoding)).started = true := rfl
  obtain ⟨horder, hout⟩ := lieInOrder_passages_iff hi hs hst hb hr hrun
  refine ⟨fun hw => horder.1 hw.inOrder, fun hc => ⟨?_, fun p hp => ?_, horder.2 hc⟩⟩
  · obtain ⟨r₁, s₁, hr₁, h₁, ho⟩ := hout hc
    obtain ⟨r₂, t, tag, content, hr₂, ht, hroot, hname, hnames⟩ :=
      follow_sourceEnd hi h₁ (Writer.started_after hst _) ho hend
    refine ⟨t, tag, content, ?_, hroot, hname, ?_⟩
    · rw [Markup.read, Reader.feed_of_append hr, Reader.feed_of_append hr₁, hr₂]
      exact ht
    · rw [hnames, List.append_nil, List.reverse_replicate, sourcePassages, length_passages]
  · rw [← List.append_assoc]
    exact (prefix_of_mem_passages hrun hp).trans (List.prefix_append _ _)

end Documents

/-! ### Builds -/

section Builds

variable {b b' : Builder} {r : Result} {σ σ' : Session}

/-- A build that has generated its fragments has rendered them. -/
theorem exists_render_of_build (h : b.build σ = .ok (b', r) σ') (hr : r.origin = .generated) :
    ∃ text, Document.render (some Document.standardIndent) Document.standardEncoding
      (source (Producer.fragments b.element b.activeProducers)) = .ok text := by
  rw [Builder.build_eq, Action.bind_eq_ok_iff] at h
  obtain ⟨target, σ₁, -, h⟩ := h
  rw [Action.bind_eq_ok_iff] at h
  obtain ⟨origin, σ₂, hwrite, h⟩ := h
  rw [Action.bind_eq_ok_iff] at h
  obtain ⟨resources, σ₃, -, h⟩ := h
  rw [Action.pure_eq_ok_iff] at h
  obtain ⟨⟨⟩, -⟩ := h
  obtain rfl : origin = .generated := hr
  rw [Builder.writeFragment, Action.bind_eq_ok_iff] at hwrite
  obtain ⟨from?, σ₄, -, hwrite⟩ := hwrite
  cases from? with
  | override =>
    simp only [Action.bind_eq_ok_iff, Action.pure_eq_ok_iff] at hwrite
    obtain ⟨-, -, -, -, -, -, h, -⟩ := hwrite
    cases h
  | generated =>
    simp only [Action.bind_eq_ok_iff, createSource, Document.create] at hwrite
    obtain ⟨⟨⟩, σ₅, hcreate, -⟩ := hwrite
    cases ht : Document.render (some Document.standardIndent) Document.standardEncoding
      (source (Producer.fragments b.element b.activeProducers)) with
    | error f =>
      rw [ht] at hcreate
      exact absurd hcreate Action.throw_ne_ok
    | ok text => exact ⟨text, rfl⟩

/-- A build that has generated its fragments has wrapped what its producers write if, and
    only if, no producer has ended an element that it had not started, and all but the
    last one have ended all that they had started. -/
theorem isWrapped_build_iff (he : b.element = fragmentElement)
    (h : b.build σ = .ok (b', r) σ') (hr : r.origin = .generated) :
    ∃ text, Document.render (some Document.standardIndent) Document.standardEncoding
        (source (Producer.fragments b.element b.activeProducers)) = .ok text ∧
      (IsWrapped rootElement fragmentElement text (sourcePassages b.element b.activeProducers) ↔
        AreComplete (sourcePassages b.element b.activeProducers)) := by
  obtain ⟨text, ht⟩ := exists_render_of_build h hr
  have hname : bareName b.element = fragmentElement := by
    rw [he]
    exact bareName_eq_self (by decide)
  exact ⟨text, ht, hname ▸ isWrapped_iff_of_render ht⟩

end Builds

/-- Where the fragment of a build comes from, unless the build fails. -/
def Builder.origin? (b : Builder) (σ : Session) : Option Origin :=
  match b.build σ with
  | .ok (_, r) _ => some r.origin
  | .error _ _ => none

theorem Builder.exists_build_of_origin? {b : Builder} {σ : Session} {o : Origin}
    (h : b.origin? σ = some o) : ∃ b' r σ', b.build σ = .ok (b', r) σ' ∧ r.origin = o := by
  unfold origin? at h
  split at h
  · next b' r σ' hb => exact ⟨b', r, σ', hb, Option.some.inj h⟩
  · cases h

/-- A producer that ends what it starts, and one that does not. -/
theorem isWrapped_build_of_last_open :
    let closed : Producer :=
      .script (.call (.startElement "A") fun _ => .call .endElement fun _ => .done)
    let left : Producer := .script (.call (.startElement "B") fun _ => .done)
    let σ : Session := ⟨.withDirectory ["work"], [], []⟩
    let target : Target := ⟨.here, "main.wxs", by decide⟩
    let b := ((Builder.new [closed, left] none).configure σ.files target none).1
    b.element = fragmentElement ∧
      ∃ b' r σ', b.build σ = .ok (b', r) σ' ∧ r.origin = .generated ∧
        ∃ text, Document.render (some Document.standardIndent) Document.standardEncoding
            (source (Producer.fragments b.element b.activeProducers)) = .ok text ∧
          IsWrapped rootElement fragmentElement text
            (sourcePassages b.element b.activeProducers) := by
  intro closed left σ target b
  have horigin : b.origin? σ = some .generated := by decide +kernel
  have hcomplete : AreComplete (sourcePassages b.element b.activeProducers) := by decide +kernel
  obtain ⟨b', r, σ', h, hr⟩ := Builder.exists_build_of_origin? horigin
  obtain ⟨text, ht, hw⟩ := isWrapped_build_iff rfl h hr
  exact ⟨rfl, b', r, σ', h, hr, text, ht, hw.2 hcomplete⟩

/-- If the first of two producers does not end what it starts, its fragment is the only
    one in the root: the other one is in it. -/
theorem not_isWrapped_build_of_first_open :
    let left : Producer := .script (.call (.startElement "A") fun _ => .done)
    let σ : Session := ⟨.withDirectory ["work"], [], []⟩
    let target : Target := ⟨.here, "main.wxs", by decide⟩
    let b := ((Builder.new [left, .script .done] none).configure σ.files target none).1
    b.state = .configured ∧ b.element = fragmentElement ∧
      ∃ b' r σ', b.build σ = .ok (b', r) σ' ∧ r.origin = .generated ∧
        ∃ text, Document.render (some Document.standardIndent) Document.standardEncoding
            (source (Producer.fragments b.element b.activeProducers)) = .ok text ∧
          ¬ IsWrapped rootElement fragmentElement text
            (sourcePassages b.element b.activeProducers) := by
  intro left σ target b
  have horigin : b.origin? σ = some .generated := by decide +kernel
  have hincomplete : ¬ AreComplete (sourcePassages b.element b.activeProducers) := by
    decide +kernel
  obtain ⟨b', r, σ', h, hr⟩ := Builder.exists_build_of_origin? horigin
  obtain ⟨text, ht⟩ := exists_render_of_build h hr
  have hname : bareName b.element = fragmentElement := bareName_eq_self (by decide +kernel)
  have hw := isWrapped_iff_of_render ht
  rw [hname] at hw
  exact ⟨rfl, rfl, b', r, σ', h, hr, text, ht, fun hi => hincomplete (hw.1 hi)⟩

end InstallerKit.Fragment
