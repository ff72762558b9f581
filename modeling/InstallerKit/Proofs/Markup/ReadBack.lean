import InstallerKit.Proofs.Markup.Follower

/-!
# What is written is read back

A reader follows a writer from its first call to the last one. When everything has
been closed, the reader has the tree of the sketch that the accepted calls make; with
compact output, that is the tree that the accepted calls describe. Refused calls
leave no trace, even if they have closed a start tag.

* `Follower.run`: reader and sketch stay in step over a run of calls;
* `read_output`: a closed document is read as the sketch of the accepted calls;
* `read_compact_output`: compact output is read as what the accepted calls describe.
-/

namespace InstallerKit.Markup

variable {indent : Option String}

namespace Sketch

theorem closeAll_none (ls : List Layout) (d : Draft) :
    closeAll none ls d = d.finishes ls.length := by
  induction ls generalizing d with
  | nil => rfl
  | cons l ls ih =>
    rw [closeAll, ih, Layout.endLead, Draft.write_nil]
    rfl

/-- Without an indent the layout adds nothing to what a call makes of a draft. -/
theorem call_none {s : Sketch} (h : s.layouts.length = s.draft.stack.length) (c : Call) :
    (s.call none c).map (·.draft) = s.draft.call c := by
  have hlead : Layout.before none s.layouts c = [] := by
    cases c <;> simp [Layout.before, Layout.lead, Layout.endLead] <;> split <;> rfl
  cases c with
  | endDocument => simp [call, closeAll_none, h, Draft.call, Draft.closeAll]
  | _ => simp [call, hlead, Function.comp_def]

end Sketch

namespace Follower

/-- There is a layout for each open element. -/
theorem length_layouts {w : Writer} {r : Reader} {s : Sketch} (h : Follower indent w r s) :
    s.layouts.length = s.draft.stack.length := by
  have hlen : s.draft.stack.length = s.draft.names.length := by simp [Draft.names]
  rw [hlen]
  cases h with
  | settled h => rw [h.draft, h.layouts, h.names]; simp
  | inTag e es t h =>
    rw [h.draft, h.layouts]
    cases e.isEmpty <;> simp [Draft.begin, h.names]

theorem fresh (indent : Option String) : Follower indent (.fresh indent) .fresh .empty :=
  .settled {
    indent := rfl
    pending := rfl
    draft := rfl
    layouts := rfl
    names := rfl
    isName := by simp [Writer.fresh]
    root := rfl
    closed := fun _ => rfl
    mode := .inr rfl
    started := fun h => absurd h (by simp [Writer.fresh])
    fresh := fun _ => rfl }

/-- It does not matter which calls are refused before anything is written. -/
theorem step_of_accepted (hi : IsBlankIndent indent) {w : Writer} {r : Reader} {s : Sketch}
    (h : Follower indent w r s) {c : Call}
    (hc : w.started = true ∨ ((w.step c).error = none → c.MayComeFirst)) :
    Reads r (w.step c) (Answered indent s c) := by
  rcases hc with hst | hc
  · exact h.step hi (.inl hst)
  cases c with
  | startDocument version encoding =>
    by_cases hst : w.started = true
    · exact h.step hi (.inl hst)
    · have haccepted : (w.startDocument version encoding).error = none := by
        rw [Writer.startDocument, if_neg hst]
        rfl
      exact h.step hi (.inr (hc haccepted))
  | instruction target data =>
    by_cases he : (w.instruction target data).error = none
    · exact h.step hi (.inr (hc he))
    obtain ⟨e, heq⟩ : ∃ e, w.instruction target data = .refuse w e := by
      obtain ⟨-, -, hnode, -⟩ := h.beforeNode hi
      unfold Writer.instruction at he ⊢
      dsimp only at he ⊢
      split
      · exact ⟨_, rfl⟩
      next htarget =>
      split
      · exact ⟨_, rfl⟩
      next hdata =>
      split
      · exact ⟨_, rfl⟩
      next hfind =>
      rw [if_neg htarget, if_neg hdata, hfind] at he
      exact absurd (by rw [Writer.andThen_of_error_eq_none hnode]; rfl) he
    rw [Writer.step, heq]
    exact .refuse (.refused h)
  | _ => exact h.step hi (.inr trivial)

/-- Reader and sketch stay in step over a run of calls. -/
theorem run_of_accepted (hi : IsBlankIndent indent) {w : Writer} {r : Reader} {s : Sketch}
    (h : Follower indent w r s) {cs : List Call}
    (hc : w.started = true ∨ ∀ c ∈ w.accepted cs, c.MayComeFirst) :
    ∃ r' s', r.feed (w.output cs) = some r' ∧
      s.calls indent ((w.accepted cs).map Call.asRead) = some s' ∧
      (indent = none → s.draft.calls ((w.accepted cs).map Call.asRead) = some s'.draft) ∧
      Follower indent (w.after cs) r' s' := by
  induction cs generalizing w r s with
  | nil => exact ⟨r, s, rfl, rfl, fun _ => rfl, h⟩
  | cons c cs ih =>
    obtain ⟨r', hr, s', h', hs⟩ := h.step_of_accepted hi
      (hc.imp_right fun hc he => hc c (Writer.mem_accepted_cons.2 (.inl ⟨he, rfl⟩)))
    -- A refused call leaves sketch and draft alone, though it may have closed a start tag.
    obtain ⟨r'', s'', hr', hs', hd', h''⟩ := ih h' (hc.imp (Writer.started_step · c)
      fun hc x hx => hc x (Writer.mem_accepted_cons.2 (.inr hx)))
    refine ⟨r'', s'', (Reader.feed_of_append hr).trans hr', ?_, fun hn => ?_, h''⟩ <;>
      rw [Writer.accepted] <;> split at hs
    · next he => rw [if_pos he, List.map_cons, Sketch.calls, hs]; exact hs'
    · next he => rw [if_neg he, ← hs]; exact hs'
    · next he =>
      subst hn
      rw [if_pos he, List.map_cons, Draft.calls, ← Sketch.call_none h.length_layouts, hs]
      exact hd' rfl
    · next he => rw [if_neg he, ← hs]; exact hd' hn

theorem run (hi : IsBlankIndent indent) {w : Writer} {r : Reader} {s : Sketch}
    (h : Follower indent w r s) {cs : List Call}
    (hc : w.started = true ∨ ∀ c ∈ cs, c.MayComeFirst) :
    ∃ r' s', r.feed (w.output cs) = some r' ∧
      s.calls indent ((w.accepted cs).map Call.asRead) = some s' ∧
      (indent = none → s.draft.calls ((w.accepted cs).map Call.asRead) = some s'.draft) ∧
      Follower indent (w.after cs) r' s' :=
  h.run_of_accepted hi (hc.imp_right fun hc c hx => hc c (Writer.accepted_subset hx))

/-- The reader has the tree of the sketch once everything is closed. -/
theorem tree? {w : Writer} {r : Reader} {s : Sketch} (h : Follower indent w r s)
    (hs : w.stack = []) : r.tree? = s.draft.tree? ∧ s.draft.stack = [] := by
  cases h with
  | inTag e es t h => exact absurd h.stack (by simp [hs])
  | settled h =>
    obtain ⟨d, m⟩ := r
    have hmode : m = .content ∨ m = .start := h.mode
    refine ⟨?_, by rw [h.draft]; exact h.stack_eq_nil_iff.2 hs⟩
    rw [h.draft]
    rcases hmode with rfl | rfl <;> rfl

end Follower

/-- A closed document is read as the sketch of the accepted calls. -/
theorem read_output_of_accepted (hi : IsBlankIndent indent) {cs : List Call}
    (hc : ∀ c ∈ (Writer.fresh indent).accepted cs, c.MayComeFirst) :
    ∃ s, Sketch.empty.calls indent
        (((Writer.fresh indent).accepted (cs ++ [.endDocument])).map Call.asRead) = some s ∧
      (indent = none → Draft.empty.calls
        (((Writer.fresh indent).accepted (cs ++ [.endDocument])).map Call.asRead) = some s.draft) ∧
      s.draft.stack = [] ∧
      read ((Writer.fresh indent).output (cs ++ [.endDocument])) = s.draft.tree? := by
  have hc : ∀ c ∈ (Writer.fresh indent).accepted (cs ++ [.endDocument]), c.MayComeFirst := by
    rw [Writer.accepted_append]
    refine List.forall_mem_append.2 ⟨hc, fun c hx => ?_⟩
    rw [List.mem_singleton.1 (Writer.accepted_subset hx)]
    trivial
  obtain ⟨r, s, hr, hs, hd, h⟩ := (Follower.fresh indent).run_of_accepted hi (.inr hc)
  obtain ⟨ht, hnil⟩ := h.tree? (by
    rw [Writer.after_append]
    exact (Writer.endDocument_spec _).2)
  exact ⟨s, hs, hd, hnil, by rw [read, hr]; exact ht⟩

theorem read_output (hi : IsBlankIndent indent) {cs : List Call}
    (hc : ∀ c ∈ cs, c.MayComeFirst) :
    ∃ s, Sketch.empty.calls indent
        (((Writer.fresh indent).accepted (cs ++ [.endDocument])).map Call.asRead) = some s ∧
      (indent = none → Draft.empty.calls
        (((Writer.fresh indent).accepted (cs ++ [.endDocument])).map Call.asRead) = some s.draft) ∧
      s.draft.stack = [] ∧
      read ((Writer.fresh indent).output (cs ++ [.endDocument])) = s.draft.tree? :=
  read_output_of_accepted hi fun c hx => hc c (Writer.accepted_subset hx)

/-! ### Compact output -/

/-- No name that a call gives has a line feed, and its declaration is the standard one. -/
def Call.IsPlain : Call → Prop
  | .startDocument version encoding => version = "1.0" ∧ encoding = "utf-8"
  | .startElement name | .emptyElement name | .attribute name _ | .declareNamespace name _ =>
    '\n' ∉ name.display.toList
  | .instruction target _ => '\n' ∉ target.toList
  | _ => True

theorem Call.IsPlain.mayComeFirst {c : Call} (h : c.IsPlain) : c.MayComeFirst := by
  cases c <;> first | exact h | trivial

theorem Call.IsPlain.bareName_namespaceName {label uri : Datum}
    (h : (Call.declareNamespace label uri).IsPlain) :
    bareName (namespaceName label) = namespaceName label := by
  refine bareName_eq_self ?_
  have h : '\n' ∉ label.display.toList := h
  unfold namespaceName
  split
  · decide
  · rw [String.toList_append, List.mem_append]
    rintro (hx | hx)
    · exact absurd hx (by decide)
    · exact h hx

/-- What a reader takes a plain call for means what the call means. -/
theorem Draft.call_asRead {c : Call} (h : c.IsPlain) (d : Draft) : d.call c.asRead = d.call c := by
  cases c with
  | startElement name | emptyElement name =>
    cases name with
    | text name => rw [Call.asRead, bareName_eq_self (s := name) h]
    | _ => rfl
  | «attribute» name value =>
    cases name with
    | text name => rw [Call.asRead, bareName_eq_self (s := name) h]
    | _ => rfl
  | declareNamespace label uri =>
    rw [Call.asRead, h.bareName_namespaceName]
    rfl
  | instruction target data =>
    rw [Call.asRead, bareName_eq_self h, dataAsRead, if_neg fun hx => h hx.1]
    rfl
  | _ => rfl

theorem Draft.calls_map_asRead {cs : List Call} (h : ∀ c ∈ cs, c.IsPlain) (d : Draft) :
    d.calls (cs.map Call.asRead) = d.calls cs := by
  induction cs generalizing d with
  | nil => rfl
  | cons c cs ih =>
    rw [List.map_cons, Draft.calls, Draft.calls, Draft.call_asRead (h c (by simp))]
    exact congrArg _ (funext (ih fun x hx => h x (by simp [hx])))

/-- It is laid out like the call, too. -/
theorem Sketch.call_asRead {c : Call} (h : c.IsPlain) (s : Sketch) :
    s.call indent c.asRead = s.call indent c := by
  have hdraft := Draft.call_asRead h (s.draft.write (Layout.before indent s.layouts c))
  cases c with
  | startElement name | emptyElement name =>
    cases name with
    | text name => rw [Call.asRead, bareName_eq_self (s := name) h]
    | _ => rfl
  | «attribute» name value =>
    cases name with
    | text name => rw [Call.asRead, bareName_eq_self (s := name) h]
    | _ => rfl
  | declareNamespace label uri => exact congrArg (Option.map (Sketch.mk · s.layouts)) hdraft
  | instruction target data =>
    exact congrArg (Option.map (Sketch.mk · (Layout.child s.layouts))) hdraft
  | _ => rfl

theorem Sketch.calls_map_asRead {cs : List Call} (h : ∀ c ∈ cs, c.IsPlain) (s : Sketch) :
    s.calls indent (cs.map Call.asRead) = s.calls indent cs := by
  induction cs generalizing s with
  | nil => rfl
  | cons c cs ih =>
    rw [List.map_cons, Sketch.calls, Sketch.calls, Sketch.call_asRead (h c (by simp))]
    exact congrArg _ (funext (ih fun x hx => h x (by simp [hx])))

/-- Compact output is read as the tree that the accepted calls describe. -/
theorem read_compact_output {cs : List Call} (h : ∀ c ∈ cs, c.IsPlain) :
    ∃ t, described ((Writer.fresh none).accepted (cs ++ [.endDocument])) = some t ∧
      read ((Writer.fresh none).output (cs ++ [.endDocument])) = some t := by
  have hblank : IsBlankIndent none := by simp [IsBlankIndent]
  obtain ⟨s, -, hd, hs, hr⟩ := read_output hblank fun c hc => (h c hc).mayComeFirst
  have hd := hd rfl
  rw [Draft.calls_map_asRead] at hd
  · refine ⟨_, ?_, hr.trans (by rw [Draft.tree?, hs]; rfl)⟩
    rw [described, hd, Option.bind_some, Draft.tree?, hs]
    rfl
  · intro c hc
    rcases List.mem_append.1 (Writer.accepted_subset hc) with hc | hc
    · exact h c hc
    · rw [List.mem_singleton.1 hc]
      trivial

theorem read_compact_output_with_refusals :
    let cs : List Call := [.instruction "style" (some "a?"), .startElement "a",
      .attribute "x" "<\n\"", .attribute "x" "2", .cdata "]]>", .attribute "y" "3",
      .emptyElement "b", .characters "\x00", .endElement, .characters "\t", .startElement "c"]
    (∀ c ∈ cs, c.IsPlain) ∧
    String.ofList ((Writer.fresh none).output (cs ++ [.endDocument])) =
      "<?style a??>\n<a x=\"&lt;&#10;&quot;\"><![CDATA[]]]]><![CDATA[>]]><b/></a>\n" ∧
    ∃ t, described ((Writer.fresh none).accepted (cs ++ [.endDocument])) = some t ∧
      read ((Writer.fresh none).output (cs ++ [.endDocument])) = some t := by
  intro cs
  have h : ∀ c ∈ cs, c.IsPlain := by simp [cs, Call.IsPlain, Datum.display]
  exact ⟨h, by decide +kernel, read_compact_output h⟩

end InstallerKit.Markup
