import InstallerKit.Proofs.Markup.Reading
import InstallerKit.Proofs.Markup.Run
import InstallerKit.Proofs.Preprocessor.Scan

/-!
# References stay within calls

The layer that protects literal dollars looks at one text at a time, and the writer
spells texts in its own way. Still the preprocessor can scan the whole document: what
each call writes can be scanned by itself, so the scan of the document is the one of
what the first call has written, then that of the second one, and so on. Only texts and
attribute values have dollars, so only what they write has references.

A call writes some of its texts as they are (`Call.verbatim`) and spells others
(`Call.payload`). Everything else that is written, in particular names, has no dollars.

* `Writer.keeps_step`: what a call writes has what its payload has;
* `Script.scan_run`: the scan of a document, call by call.
-/

namespace InstallerKit.Markup

open Preprocessor (Respelled scan)

/-! ### Spelling -/

theorem respelled_encodeText (cs : List Char) : Respelled cs (encodeText cs) := by
  refine .flatMap (fun c => ?_) cs
  unfold textChar
  split
  · next h => subst h; exact .inr (by decide)
  split
  · next h => subst h; exact .inr (by decide)
  split
  · next h => subst h; exact .inr (by decide)
  · exact .inl rfl

theorem respelled_encodeAttribute (cs : List Char) : Respelled cs (encodeAttribute cs) := by
  refine .flatMap (fun c => ?_) cs
  unfold attributeChar
  split
  · next h => subst h; exact .inr (by decide)
  split
  · next h => subst h; exact .inr (by decide)
  split
  · next h => subst h; exact .inr (by decide)
  split
  · next h => subst h; exact .inr (by decide)
  unfold textChar
  split
  · next h => subst h; exact .inr (by decide)
  split
  · next h => subst h; exact .inr (by decide)
  split
  · next h => subst h; exact .inr (by decide)
  · exact .inl rfl

/-- Where a CDATA section is split, the bracket that would end it gets the split before it. -/
theorem respelled_encodeCdata (cs : List Char) : Respelled cs (encodeCdata cs) := by
  match cs with
  | [] => exact .nil
  | c :: cs =>
    by_cases hend : "]]>".toList <+: c :: cs
    · obtain ⟨rest, hrest⟩ := hend
      obtain ⟨rfl, rfl⟩ : c = ']' ∧ cs = ']' :: '>' :: rest := by simpa using hrest.symm
      have hsplit : Respelled ('>' :: rest) ("]]><![CDATA[>".toList ++ encodeCdata rest) :=
        .other (by decide) (by decide) (respelled_encodeCdata rest)
      exact .same (.same hsplit)
    · rw [Reader.encodeCdata_cons hend]
      exact .same (respelled_encodeCdata cs)
termination_by cs.length

/-! ### What a call writes -/

/-- The texts that a call writes as they are, apart from names. -/
def Call.verbatim : Call → List Char
  | .startDocument version encoding => version.toList ++ encoding.toList
  | .comment text => text.toList
  | .instruction _ data => (data.getD "").toList
  | _ => []

/-- The text that a call writes in another spelling, so spelled. -/
def Call.payload : Call → List Char
  | .defaultNamespace uri | .declareNamespace _ uri => encodeAttribute uri.display.toList
  | .attribute _ value => encodeAttribute value.display.toList
  | .characters text => encodeText text.toList
  | .characterSlice buffer start length => encodeText (buffer.sliceText start length).toList
  | .cdata text => encodeCdata text.toList
  | _ => []

/-- A property that texts without dollars have, and also a text after another one. -/
structure IsAdditive (S : List Char → Prop) : Prop where
  plain : ∀ {cs : List Char}, '$' ∉ cs → S cs
  append : ∀ {cs ds : List Char}, S cs → S ds → S (cs ++ ds)

theorem isAdditive_plain : IsAdditive fun cs => '$' ∉ cs := ⟨id, by simp_all⟩

theorem isAdditive_scan : IsAdditive fun cs => ∃ ps, scan cs = some ps where
  plain h := ⟨_, Preprocessor.scan_of_not_mem h⟩
  append := fun ⟨ps, h⟩ ⟨qs, h'⟩ => ⟨ps ++ qs, Preprocessor.scan_append h h'⟩

/-- There are no dollars in the indent of a writer, nor in the names of open elements. -/
structure Writer.IsTame (w : Writer) : Prop where
  indent : ∀ i ∈ w.indent, '$' ∉ i.toList
  names : ∀ e ∈ w.stack, '$' ∉ e.name.toList

/-- A reply leaves a tame writer behind, and its text has a property. -/
def Reply.Keeps (S : List Char → Prop) (p : Reply) : Prop :=
  p.writer.IsTame ∧ S p.text

theorem dollar_not_mem_of_isName {cs : List Char} (h : isName cs = true) : '$' ∉ cs := by
  have hb := (IsBare.of_isName h).dollar
  rcases eq_bare_of_isName h with hcs | hcs <;> rw [hcs]
  · exact hb
  · simp [hb]

section Keeps

variable {S : List Char → Prop} (hS : IsAdditive S) {w : Writer} (hw : w.IsTame)
include hS hw

theorem keeps_refuse (e : Error) : (Reply.refuse w e).Keeps S :=
  ⟨hw, hS.plain (by simp [Reply.refuse])⟩

theorem keeps_ok_nil : (Reply.ok w []).Keeps S := ⟨hw, hS.plain (by simp [Reply.ok])⟩

omit hw in
theorem keeps_andThen {p : Reply} {next : Writer → Reply} (hp : p.Keeps S)
    (hnext : ∀ v : Writer, v.IsTame → (next v).Keeps S) : (p.andThen next).Keeps S := by
  unfold Reply.andThen
  split
  · exact hp
  · exact ⟨(hnext _ hp.1).1, hS.append hp.2 (hnext _ hp.1).2⟩

omit hS in
theorem isTame_pop : w.pop.IsTame :=
  ⟨hw.indent, fun e he => hw.names e (List.mem_of_mem_tail he)⟩

omit hS in
theorem isTame_mapTop {f : OpenElement → OpenElement} (hf : ∀ e, (f e).name = e.name) :
    (w.mapTop f).IsTame := by
  refine ⟨hw.indent, fun e he => ?_⟩
  unfold Writer.mapTop at he
  cases hs : w.stack with
  | nil => simp [hs] at he
  | cons x xs =>
    simp only [hs, List.mem_cons] at he
    rcases he with rfl | he
    · rw [hf]
      exact hw.names x (by simp [hs])
    · exact hw.names e (by simp [hs, he])

theorem keeps_closeTag : w.closeTag.Keeps S := by
  unfold Writer.closeTag
  split
  · have hv : ({ w with pending := false } : Writer).IsTame := ⟨hw.indent, hw.names⟩
    split
    · exact keeps_ok_nil hS hv
    · split
      · exact ⟨isTame_pop hv, hS.plain (by decide : '$' ∉ "/>".toList)⟩
      · exact ⟨hv, hS.plain (by decide : '$' ∉ ">".toList)⟩
  · exact keeps_ok_nil hS hw

omit hS hw in
theorem dollar_not_mem_lineBreak {i : String} (hi : '$' ∉ i.toList) (n : Nat) :
    '$' ∉ Writer.lineBreak i n := by
  simp only [Writer.lineBreak, List.mem_cons, List.mem_flatten, List.mem_replicate, not_or]
  refine ⟨by decide, ?_⟩
  rintro ⟨l, ⟨-, rfl⟩, hl⟩
  exact hi hl

theorem keeps_beforeNode : w.beforeNode.Keeps S := by
  refine keeps_andThen hS (keeps_closeTag hS hw) fun v hv => ?_
  have hstarted : ({ v with started := true } : Writer).IsTame := ⟨hv.indent, hv.names⟩
  simp only
  split
  · exact ⟨hstarted, hS.plain (by simp only [Reply.ok]; split <;> decide)⟩
  · refine ⟨isTame_mapTop hstarted fun e => rfl, hS.plain ?_⟩
    simp only [Reply.ok]
    split
    · next i hi =>
      split
      · simp
      · exact dollar_not_mem_lineBreak (hv.indent i hi) _
    · simp

theorem keeps_openElement (name : Datum) (isEmpty : Bool) :
    (w.openElement name isEmpty).Keeps S := by
  unfold Writer.openElement
  split
  · split
    · next n hn =>
      refine keeps_andThen hS (keeps_closeTag hS hw) fun v hv => ?_
      split
      · exact keeps_refuse hS hv _
      · refine keeps_andThen hS (keeps_beforeNode hS hv) fun u hu => ?_
        have hd := dollar_not_mem_of_isName hn
        exact ⟨⟨hu.indent, List.forall_mem_cons.2 ⟨hd, hu.names⟩⟩, hS.plain (by simpa [Reply.ok])⟩
    · exact keeps_refuse hS hw _
  · exact keeps_refuse hS hw _

theorem keeps_addAttribute (name value : Datum)
    (hv : S (encodeAttribute value.display.toList)) : (w.addAttribute name value).Keeps S := by
  unfold Writer.addAttribute
  split
  · split
    · split
      · exact keeps_refuse hS hw _
      next hn =>
      split
      · exact keeps_refuse hS hw _
      split
      · exact keeps_refuse hS hw _
      have hd := dollar_not_mem_of_isName (by simpa using hn)
      refine ⟨isTame_mapTop hw fun e => rfl, ?_⟩
      exact hS.append (hS.append (hS.plain (by simpa)) hv) (hS.plain (by decide))
    · exact keeps_refuse hS hw _
  · exact keeps_refuse hS hw _

omit hS hw in
theorem dollar_not_mem_endTag {indent : Option String} (hi : ∀ i ∈ indent, '$' ∉ i.toList)
    {e : OpenElement} (he : '$' ∉ e.name.toList) (n : Nat) : '$' ∉ Writer.endTag indent e n := by
  unfold Writer.endTag
  simp only [List.mem_append, not_or]
  refine ⟨⟨⟨?_, by decide⟩, he⟩, by decide⟩
  split
  · next i =>
    split
    · exact dollar_not_mem_lineBreak (hi i rfl) n
    · simp
  · simp

omit hS hw in
theorem dollar_not_mem_endTags {indent : Option String} (hi : ∀ i ∈ indent, '$' ∉ i.toList)
    {es : List OpenElement} (he : ∀ e ∈ es, '$' ∉ e.name.toList) :
    '$' ∉ Writer.endTags indent es := by
  induction es with
  | nil => simp [Writer.endTags]
  | cons e es ih =>
    rw [List.forall_mem_cons] at he
    rw [Writer.endTags, List.mem_append, not_or]
    exact ⟨dollar_not_mem_endTag hi he.1 _, ih he.2⟩

theorem keeps_endElement : w.endElement.Keeps S := by
  rcases w.endElement_cases with ⟨-, -, -, -, -, heq⟩ | heq
  · rw [heq]
    have hv : ({ w with pending := false } : Writer).IsTame := ⟨hw.indent, hw.names⟩
    exact ⟨isTame_pop hv, hS.plain (by decide : '$' ∉ "/>".toList)⟩
  · rw [heq]
    refine keeps_andThen hS (keeps_closeTag hS hw) fun v hv => ?_
    unfold Writer.closeElement
    split
    · exact keeps_refuse hS hv _
    · next e es hs =>
      have he := hv.names e (by simp [hs])
      exact ⟨isTame_pop hv, hS.plain (dollar_not_mem_endTag hv.indent he _)⟩

theorem keeps_endDocument : w.endDocument.Keeps S := by
  refine keeps_andThen hS (keeps_closeTag hS hw) fun v hv => ⟨⟨hv.indent, by simp [Reply.ok]⟩, ?_⟩
  refine hS.append (hS.plain (dollar_not_mem_endTags hv.indent hv.names)) (hS.plain ?_)
  split <;> decide

theorem keeps_characters (text : String) (ht : S (encodeText text.toList)) :
    (w.characters text).Keeps S := by
  unfold Writer.characters
  split
  · exact keeps_ok_nil hS hw
  · refine keeps_andThen hS (keeps_closeTag hS hw) fun v hv => ?_
    split
    · split
      · exact keeps_ok_nil hS hv
      · exact keeps_refuse hS hv _
    · split
      · exact keeps_refuse hS hv _
      · exact ⟨isTame_mapTop hv fun e => rfl, ht⟩

theorem keeps_cdata (text : String) (ht : S (encodeCdata text.toList)) :
    (w.cdata text).Keeps S := by
  unfold Writer.cdata
  split
  · exact keeps_refuse hS hw _
  · refine keeps_andThen hS (keeps_closeTag hS hw) fun v hv => ?_
    split
    · exact keeps_refuse hS hv _
    · refine ⟨isTame_mapTop hv fun e => rfl, ?_⟩
      exact hS.append (hS.append (hS.plain (by decide)) ht) (hS.plain (by decide))

theorem keeps_comment (text : String) (ht : '$' ∉ text.toList) : (w.comment text).Keeps S := by
  unfold Writer.comment
  split
  · exact keeps_refuse hS hw _
  split
  · exact keeps_refuse hS hw _
  · refine keeps_andThen hS (keeps_beforeNode hS hw) fun v hv => ⟨hv, hS.plain ?_⟩
    simpa [Reply.ok] using ht

theorem keeps_instruction (target : String) (data : Option String)
    (hd : '$' ∉ (data.getD "").toList) : (w.instruction target data).Keeps S := by
  unfold Writer.instruction
  simp only
  split
  · exact keeps_refuse hS hw _
  next ht =>
  split
  · exact keeps_refuse hS hw _
  split
  · exact keeps_refuse hS hw _
  · refine keeps_andThen hS (keeps_beforeNode hS hw) fun v hv => ⟨hv, hS.plain ?_⟩
    have ht : '$' ∉ target.toList := dollar_not_mem_of_isName (by simp_all)
    split <;> simp [Reply.ok, ht, hd]

/-- What a call writes has a property if its payload has it, and what it writes as it is
    has no dollars. -/
theorem keeps_step {c : Call} (hc : '$' ∉ c.verbatim) (hp : S c.payload) : (w.step c).Keeps S := by
  cases c with
  | startDocument version encoding =>
    rw [Writer.step, Writer.startDocument]
    simp only [Call.verbatim, List.mem_append, not_or] at hc
    split
    · exact keeps_refuse hS hw _
    · exact ⟨⟨hw.indent, hw.names⟩, hS.plain (by simp [Reply.ok, hc])⟩
  | endDocument => exact keeps_endDocument hS hw
  | startElement name => exact keeps_openElement hS hw name false
  | emptyElement name => exact keeps_openElement hS hw name true
  | endElement => exact keeps_endElement hS hw
  | defaultNamespace uri => exact keeps_addAttribute hS hw "xmlns" uri hp
  | declareNamespace label uri =>
    rw [Writer.step, Writer.declareNamespace]
    split
    · exact keeps_addAttribute hS hw "xmlns" uri hp
    · exact keeps_addAttribute hS hw _ uri hp
  | «attribute» name value => exact keeps_addAttribute hS hw name value hp
  | characters text => exact keeps_characters hS hw text hp
  | characterSlice buffer start length => exact keeps_characters hS hw _ hp
  | cdata text => exact keeps_cdata hS hw text hp
  | comment text => exact keeps_comment hS hw text hc
  | instruction target data => exact keeps_instruction hS hw target data hc
  | flush => exact keeps_ok_nil hS hw

end Keeps

/-! ### Calls through the layer -/

/-- What is not protected has no dollars: comments, the data of instructions, the
    addresses of namespaces, the arguments of the declaration, and values that are no
    texts. -/
def Call.IsSafe : Call → Prop
  | .startDocument version encoding => '$' ∉ version.toList ∧ '$' ∉ encoding.toList
  | .defaultNamespace uri | .declareNamespace _ uri => '$' ∉ uri.display.toList
  | .attribute _ value => (∃ s, value = .text s) ∨ '$' ∉ value.display.toList
  | .comment text => '$' ∉ text.toList
  | .instruction _ data => '$' ∉ (data.getD "").toList
  | _ => True

/-- Whether a call gives a text that the layer protects. -/
def Call.isProtected : Call → Bool
  | .attribute .. | .characters _ | .characterSlice .. | .cdata _ => true
  | _ => false

theorem Call.IsSafe.verbatim {c d : Call} (h : c.IsSafe) (hd : c.escaped = .ok d) :
    '$' ∉ d.verbatim := by
  cases c with
  | «attribute» name value =>
    rw [escaped] at hd
    cases hv : escapeValue value with
    | error e => rw [hv] at hd; cases hd
    | ok v => rw [hv] at hd; cases hd; simp [Call.verbatim]
  | startDocument version encoding =>
    cases hd
    obtain ⟨hv, he⟩ : '$' ∉ version.toList ∧ '$' ∉ encoding.toList := h
    simp [Call.verbatim, hv, he]
  | comment text => cases hd; exact h
  | instruction target data => cases hd; exact h
  | _ => cases hd; simp [Call.verbatim]

/-- A text that has no dollars has none in another spelling. -/
theorem dollar_not_mem_encodeAttribute {cs : List Char} (h : '$' ∉ cs) :
    '$' ∉ encodeAttribute cs :=
  (respelled_encodeAttribute cs).not_mem h

/-- A call that is not protected has no dollars in its payload. -/
theorem Call.IsSafe.payload {c d : Call} (h : c.IsSafe) (hd : c.escaped = .ok d)
    (hc : c.isProtected = false) : '$' ∉ d.payload := by
  cases c with
  | defaultNamespace uri => cases hd; exact dollar_not_mem_encodeAttribute h
  | declareNamespace label uri => cases hd; exact dollar_not_mem_encodeAttribute h
  | «attribute» => cases hc
  | characters => cases hc
  | characterSlice => cases hc
  | cdata => cases hc
  | _ => cases hd; simp [Call.payload]

/-- A value that is no text comes out of the layer as it is. -/
theorem Call.escapeValue_eq {d v : Datum} (h : escapeValue d = .ok v) :
    (∃ s, d = .text s ∧ v = .text (Preprocessor.escapeText s)) ∨ v = d ∧ ∀ s, d ≠ .text s := by
  unfold escapeValue at h
  split at h
  · next s => cases h; exact .inl ⟨s, rfl, rfl⟩
  · split at h <;> cases h
    exact .inr ⟨rfl, by simp⟩
  · split at h <;> cases h
    exact .inr ⟨rfl, by simp⟩
  · next hne _ _ =>
    split at h <;> cases h
    exact .inr ⟨rfl, fun s hs => hne s hs⟩

/-- The payload of a call that comes out of the layer can be scanned. -/
theorem Call.IsSafe.scan_payload {c d : Call} (h : c.IsSafe) (hd : c.escaped = .ok d) :
    ∃ ps, scan d.payload = some ps := by
  cases c with
  | «attribute» name value =>
    rw [escaped] at hd
    cases hv : escapeValue value with
    | error e => rw [hv] at hd; cases hd
    | ok v =>
      rw [hv] at hd
      cases hd
      rcases escapeValue_eq hv with ⟨s, -, rfl⟩ | ⟨rfl, hno⟩
      · rw [Call.payload, Datum.display, Preprocessor.escapeText, String.toList_ofList]
        exact (respelled_encodeAttribute _).scan_escape
      · have h : '$' ∉ v.display.toList := h.resolve_left (not_exists.2 hno)
        exact ⟨_, Preprocessor.scan_of_not_mem (dollar_not_mem_encodeAttribute h)⟩
  | characters text =>
    cases hd
    rw [Call.payload, Preprocessor.escapeText, String.toList_ofList]
    exact (respelled_encodeText _).scan_escape
  | characterSlice buffer start length =>
    cases hd
    rw [Call.payload, Preprocessor.escapeText, String.toList_ofList]
    exact (respelled_encodeText _).scan_escape
  | cdata text =>
    cases hd
    rw [Call.payload, Preprocessor.escapeText, String.toList_ofList]
    exact (respelled_encodeCdata _).scan_escape
  | _ => exact ⟨_, Preprocessor.scan_of_not_mem (h.payload hd rfl)⟩

namespace Script

/-- The calls that a script makes through a layer, and what is written for each. -/
def exchanges (change : Call → Except Error Call) : Script → Writer → List (Call × List Char)
  | done, _ => []
  | fail _, _ => []
  | call c next, w =>
    match change c with
    | .ok d => (c, (w.step d).text) :: (next (w.step d).error).exchanges change (w.step d).writer
    | .error e => (c, []) :: (next (some e)).exchanges change w

/-- What is written for the calls is all that is written. -/
theorem run_mapCalls_text (change : Call → Except Error Call) (s : Script) (w : Writer) :
    ((s.mapCalls change).run w).text = (s.exchanges change w).flatMap (·.2) := by
  induction s generalizing w with
  | done => rfl
  | fail f => rfl
  | call c next ih =>
    rw [mapCalls, exchanges]
    cases change c with
    | error e => exact ih (some e) w
    | ok d => rw [run, List.flatMap_cons, ← ih]

/-- The scan of a document whose calls come through the layer that protects literal
    dollars is the scan of what the first call has written, then of the second one,
    and so on. A call that gives no text for the layer to protect writes no dollar. -/
theorem scan_exchanges {w : Writer} (hw : w.IsTame) (s : Script)
    (h : ∀ x ∈ s.exchanges Call.escaped w, x.1.IsSafe) :
    ∃ scans : List (List Preprocessor.Piece),
      (s.exchanges Call.escaped w).map (fun x => scan x.2) = scans.map some ∧
      scan ((s.exchanges Call.escaped w).flatMap (·.2)) = some scans.flatten ∧
      ∀ x ∈ s.exchanges Call.escaped w, '$' ∈ x.2 → x.1.isProtected = true := by
  induction s generalizing w with
  | done => exact ⟨[], rfl, rfl, fun _ hx => absurd hx List.not_mem_nil⟩
  | fail f => exact ⟨[], rfl, rfl, fun _ hx => absurd hx List.not_mem_nil⟩
  | call c next ih =>
    rw [exchanges] at h ⊢
    cases hd : c.escaped with
    | error e =>
      -- The layer has refused the call, and the writer has not seen it.
      simp only [hd, List.forall_mem_cons] at h ⊢
      obtain ⟨scans, hmap, hscan, hdollar⟩ := ih (some e) hw h.2
      exact ⟨[] :: scans, by rw [List.map_cons, hmap]; rfl, hscan, by simp, hdollar⟩
    | ok d =>
      simp only [hd, List.forall_mem_cons] at h ⊢
      obtain ⟨hsafe, h⟩ := h
      obtain ⟨hv, ps, hps⟩ :=
        keeps_step isAdditive_scan hw (hsafe.verbatim hd) (hsafe.scan_payload hd)
      obtain ⟨scans, hmap, hscan, hdollar⟩ := ih _ hv h
      refine ⟨ps :: scans, by rw [List.map_cons, hmap, hps]; rfl, ?_, fun hx => ?_, hdollar⟩
      · rw [List.flatMap_cons, List.flatten_cons]
        exact Preprocessor.scan_append hps hscan
      · cases hc : c.isProtected with
        | true => rfl
        | false =>
          exact absurd hx
            (keeps_step isAdditive_plain hw (hsafe.verbatim hd) (hsafe.payload hd hc)).2

/-- A document whose calls come through the layer can be scanned, call by call, so every
    reference is in what a single call has written, and this is one whose text the
    layer protects. -/
theorem scan_run {indent : Option String} (hi : ∀ i ∈ indent, '$' ∉ i.toList) (s : Script)
    (h : ∀ x ∈ s.exchanges Call.escaped (.fresh indent), x.1.IsSafe) :
    ((s.mapCalls Call.escaped).run (.fresh indent)).text =
      (s.exchanges Call.escaped (.fresh indent)).flatMap (·.2) ∧
    ∃ scans : List (List Preprocessor.Piece),
      (s.exchanges Call.escaped (.fresh indent)).map (fun x => scan x.2) = scans.map some ∧
      scan ((s.mapCalls Call.escaped).run (.fresh indent)).text = some scans.flatten ∧
      ∀ x ∈ s.exchanges Call.escaped (.fresh indent), '$' ∈ x.2 → x.1.isProtected = true := by
  have hw : (Writer.fresh indent).IsTame := ⟨hi, fun e he => absurd he List.not_mem_nil⟩
  rw [run_mapCalls_text]
  exact ⟨rfl, scan_exchanges hw s h⟩

theorem scan_run_of_cut_references :
    let s : Script := .call (.startElement "a") fun _ => .call (.attribute "b" "$(v") fun _ =>
      .call (.attribute "b" "$(w)") fun _ => .call (.characters "$") fun _ =>
      .call (.characters "(x)$$(]]>)") fun _ => .call (.cdata "$(]]>)$") fun _ =>
      .call (.comment "(y)") fun _ => .call .endDocument fun _ => .done
    (∀ x ∈ s.exchanges Call.escaped (.fresh none), x.1.IsSafe) ∧
    String.ofList ((s.mapCalls Call.escaped).run (.fresh none)).text =
      "<a b=\"$$(v\">$$(x)$$$(]]&gt;)<![CDATA[$(]]]]><![CDATA[>)$$]]><!--(y)--></a>\n" ∧
    ∃ scans : List (List Preprocessor.Piece),
      (s.exchanges Call.escaped (.fresh none)).map (fun x => scan x.2) = scans.map some ∧
      scan ((s.mapCalls Call.escaped).run (.fresh none)).text = some scans.flatten := by
  intro s
  have h : ∀ x ∈ s.exchanges Call.escaped (.fresh none), x.1.IsSafe := by
    have hcalls : (s.exchanges Call.escaped (.fresh none)).map Prod.fst =
        [.startElement "a", .attribute "b" "$(v", .attribute "b" "$(w)", .characters "$",
          .characters "(x)$$(]]>)", .cdata "$(]]>)$", .comment "(y)", .endDocument] := rfl
    rw [← List.forall_mem_map (f := Prod.fst) (P := Call.IsSafe), hcalls]
    simp [Call.IsSafe]
  obtain ⟨-, scans, hmap, hscan, -⟩ := scan_run (by simp) s h
  exact ⟨h, by decide +kernel, scans, hmap, hscan⟩

end Script

end InstallerKit.Markup
