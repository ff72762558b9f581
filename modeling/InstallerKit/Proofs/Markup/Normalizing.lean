import InstallerKit.Proofs.Markup.LineEnd
import InstallerKit.Proofs.Markup.WellFormed

/-!
# The normalising reader

A conforming reader does not take a text as it is. First it unifies the ends of lines, then
it takes white space in the value of an attribute for spaces; what references stand for is left
alone. So it may read something else than a reader that does neither. It reads the same if there
is no carriage return in the text and no white space but spaces in values (`TakesAsIs`).

* `readNormal`: the tree that a text says to a normalising reader;
* `TakesAsIs.append`: two texts, one after the other;
* `takesAsIs_of_isEven`, `takesAsIs_of_isUnquoted`, `takesAsIs_attribute`: values and tags;
* `takesAsIs_encodeText`, `takesAsIs_cdata`, `takesAsIs_comment`, `takesAsIs_instruction`: the
  rest.
-/

namespace InstallerKit.Markup

namespace Reader

/-- In the value of an attribute. -/
def Mode.isInValue : Mode → Bool
  | .value .. | .valueReference .. => true
  | _ => false

/-- Reads a character; white space in a value as a space. -/
def stepNormal (r : Reader) (c : Char) : Option Reader :=
  r.step (if r.mode.isInValue && isSpace c then ' ' else c)

/-- Reads some characters in which the ends of lines have been unified. -/
def feedNormal : Reader → List Char → Option Reader
  | r, [] => some r
  | r, c :: cs => (r.stepNormal c).bind fun r => r.feedNormal cs

end Reader

/-- The tree that a text says to a normalising reader. -/
def readNormal (text : List Char) : Option Tree :=
  (Reader.fresh.feedNormal (unifyLines false text)).bind Reader.tree?

namespace Reader

variable {d : Draft} {r q : Reader} {c : Char} {cs ds : List Char}

theorem feedNormal_append (cs ds : List Char) :
    r.feedNormal (cs ++ ds) = (r.feedNormal cs).bind fun r => r.feedNormal ds := by
  induction cs generalizing r with
  | nil => rfl
  | cons c cs ih =>
    rw [List.cons_append, feedNormal, feedNormal]
    cases r.stepNormal c with
    | none => rfl
    | some r => exact ih

/-- Normalising makes no difference to what a reader reads. -/
structure TakesAsIs (r : Reader) (cs : List Char) : Prop where
  noReturn : '\r' ∉ cs
  feed : r.feedNormal cs = r.feed cs

theorem TakesAsIs.unified (h : r.TakesAsIs cs) :
    r.feedNormal (unifyLines false cs) = r.feed cs := by
  rw [unifyLines_of_not_mem h.noReturn, h.feed]

theorem takesAsIs_nil : r.TakesAsIs [] := ⟨List.not_mem_nil, rfl⟩

theorem TakesAsIs.cons (hc : c ≠ '\r') (hstep : r.stepNormal c = r.step c)
    (h : ∀ q, r.step c = some q → q.TakesAsIs cs) (hcs : '\r' ∉ cs) : r.TakesAsIs (c :: cs) := by
  refine ⟨by simp [Ne.symm hc, hcs], ?_⟩
  rw [feedNormal, hstep, feed_cons]
  cases hq : r.step c with
  | none => rfl
  | some q => exact (h q hq).feed

theorem TakesAsIs.append (h : r.TakesAsIs cs) (h' : ∀ q, r.feed cs = some q → q.TakesAsIs ds)
    (hds : '\r' ∉ ds) : r.TakesAsIs (cs ++ ds) := by
  refine ⟨by simp [h.noReturn, hds], ?_⟩
  rw [feedNormal_append, feed_append, h.feed]
  cases hq : r.feed cs with
  | none => rfl
  | some q => exact (h' q hq).feed

/-- The reader is known after the first of two texts. -/
theorem TakesAsIs.append_of_feed (h : r.TakesAsIs cs) (hq : r.feed cs = some q)
    (h' : q.TakesAsIs ds) : r.TakesAsIs (cs ++ ds) :=
  h.append (fun p hp => by rw [hq] at hp; exact Option.some.inj hp ▸ h') h'.noReturn

/-! ### Texts without other white space -/

theorem stepNormal_of_not_isInValue (h : r.mode.isInValue = false) :
    r.stepNormal c = r.step c := by
  rw [stepNormal, h]
  rfl

/-- No white space but spaces. -/
def IsEven (cs : List Char) : Prop :=
  ∀ c ∈ cs, isSpace c = true → c = ' '

instance (cs : List Char) : Decidable (IsEven cs) :=
  List.decidableBAll (fun c => isSpace c = true → c = ' ') cs

theorem takesAsIs_of_isEven (h : IsEven cs) : r.TakesAsIs cs := by
  induction cs generalizing r with
  | nil => exact takesAsIs_nil
  | cons c cs ih =>
    obtain ⟨hc, hcs⟩ := List.forall_mem_cons.1 h
    -- A carriage return is white space, too.
    have hreturn {x : Char} (hx : isSpace x = true → x = ' ') : x ≠ '\r' := by
      rintro rfl
      exact absurd (hx rfl) (by decide)
    refine .cons (hreturn hc) ?_ (fun q _ => ih hcs) fun hmem => hreturn (hcs _ hmem) rfl
    rw [stepNormal]
    by_cases hspace : isSpace c = true
    · rw [hc hspace]
      split <;> rfl
    · simp [hspace]

/-! ### Texts without quotes -/

/-- Neither quotes nor carriage returns. -/
def IsUnquoted (cs : List Char) : Prop :=
  ∀ c ∈ cs, c ≠ '"' ∧ c ≠ '\'' ∧ c ≠ '\r'

instance (cs : List Char) : Decidable (IsUnquoted cs) :=
  List.decidableBAll (fun c => c ≠ '"' ∧ c ≠ '\'' ∧ c ≠ '\r') cs

theorem isUnquoted_nil : IsUnquoted [] := List.forall_mem_nil _

theorem isInValue_of_inTag {t : Tag} {mayStart : Bool} (h : inTag d t mayStart c = some q) :
    q.mode.isInValue = false := by
  simp only [inTag, open?] at h
  repeat' split at h
  all_goals cases h
  all_goals rfl

/-- Only a quote leads into a value. -/
theorem isInValue_of_step (h : r.step c = some q) (hr : r.mode.isInValue = false)
    (hc : c ≠ '"' ∧ c ≠ '\'') : q.mode.isInValue = false := by
  obtain ⟨d, m⟩ := r
  cases m with
  | start | content =>
    simp only [step, plain] at h
    repeat' split at h
    all_goals cases h
    all_goals rfl
  | reference word =>
    simp only [step] at h
    split at h
    · obtain ⟨x, -, rfl⟩ := Option.map_eq_some_iff.1 h
      rfl
    · cases h
      rfl
  | opened first =>
    simp only [step, afterOpening] at h
    repeat' split at h
    all_goals cases h
    all_goals rfl
  | bang word =>
    simp only [step, afterBang] at h
    repeat' split at h
    all_goals cases h
    all_goals rfl
  | within part text =>
    simp only [step, section?] at h
    repeat' split at h
    all_goals cases h
    all_goals rfl
  | startName name =>
    simp only [step] at h
    split at h
    · exact isInValue_of_inTag h
    · cases h
      rfl
  | between t => exact isInValue_of_inTag h
  | afterValue t => exact isInValue_of_inTag h
  | attributeName t name | afterName t name =>
    simp only [step] at h
    repeat' split at h
    all_goals cases h
    all_goals rfl
  | beforeValue t name =>
    -- The one mode from which a value is reached, and only by a quote.
    simp only [step, hc.1, hc.2, or_self, if_false] at h
    split at h
    · cases h
      rfl
    · cases h
  | value => cases hr
  | valueReference => cases hr
  | slash t =>
    simp only [step, open?] at h
    repeat' split at h
    all_goals cases h
    all_goals rfl
  | endName name | afterEndName name =>
    simp only [step, close?] at h
    repeat' split at h
    all_goals cases h
    all_goals rfl

theorem takesAsIs_of_isUnquoted (hr : r.mode.isInValue = false) (h : IsUnquoted cs) :
    r.TakesAsIs cs := by
  induction cs generalizing r with
  | nil => exact takesAsIs_nil
  | cons c cs ih =>
    obtain ⟨⟨hdouble, hsingle, hreturn⟩, hcs⟩ := List.forall_mem_cons.1 h
    refine .cons hreturn (stepNormal_of_not_isInValue hr) (fun q hq => ?_) fun hmem =>
      (hcs _ hmem).2.2 rfl
    exact ih (isInValue_of_step hq hr ⟨hdouble, hsingle⟩) hcs

/-! ### Character data and sections -/

theorem takesAsIs_textChar (hc : c ≠ '\r') : TakesAsIs ⟨d, .content⟩ (textChar c) := by
  unfold textChar
  split
  · exact takesAsIs_of_isEven (by decide)
  split
  · exact takesAsIs_of_isEven (by decide)
  split
  · exact takesAsIs_of_isEven (by decide)
  · exact .cons hc (stepNormal_of_not_isInValue rfl) (fun q _ => takesAsIs_nil) List.not_mem_nil

theorem takesAsIs_encodeText (hd : d.stack ≠ []) (h : '\r' ∉ cs) :
    TakesAsIs ⟨d, .content⟩ (encodeText cs) := by
  induction cs generalizing d with
  | nil => exact takesAsIs_nil
  | cons c cs ih =>
    simp only [List.mem_cons, not_or] at h
    rw [encodeText, List.flatMap_cons]
    exact (takesAsIs_textChar (Ne.symm h.1)).append_of_feed (feed_textChar hd c)
      (ih (by simpa using hd) h.2)

/-- A section goes on as long as its end does not occur. -/
theorem takesAsIs_within {part : Section} {acc : List Char} (hreturn : '\r' ∉ cs)
    (h : ∀ u v, cs = u ++ '>' :: v → ¬ part.stop <:+ acc ++ u) :
    TakesAsIs ⟨d, .within part acc⟩ cs := by
  induction cs generalizing acc with
  | nil => exact takesAsIs_nil
  | cons c cs ih =>
    simp only [List.mem_cons, not_or] at hreturn
    refine .cons (Ne.symm hreturn.1) (stepNormal_of_not_isInValue rfl) (fun q hq => ?_) hreturn.2
    have hstep : step ⟨d, .within part acc⟩ c = some ⟨d, .within part (acc ++ [c])⟩ := by
      refine if_neg ?_
      rintro ⟨rfl, hstop⟩
      exact h [] cs rfl (by simpa using hstop)
    rw [hstep] at hq
    cases hq
    refine ih hreturn.2 ?_
    rintro u v rfl hu
    exact h (c :: u) v rfl (by simpa using hu)

/-- A section is read to its end. -/
theorem takesAsIs_section (part : Section) {text : List Char} (hreturn : '\r' ∉ text)
    (h : ¬ part.stop ++ ['>'] <:+: text) :
    TakesAsIs ⟨d, .within part []⟩ (text ++ (part.stop ++ ['>'])) := by
  have hstop : IsEven (part.stop ++ ['>']) := by
    cases part with
    | instruction first => exact (by decide : IsEven ['?', '>'])
    | _ => decide
  refine (takesAsIs_within hreturn ?_).append (fun q _ => takesAsIs_of_isEven hstop)
    (takesAsIs_of_isEven (r := fresh) hstop).noReturn
  rintro u v rfl hu
  exact h (Text.infix_of_suffix hu)

/-- Sections into which a payload has been split are read one after the other. What has been
    written of the first one already, `pre`, is nothing or the end of an end. -/
theorem takesAsIs_sections {d : Draft} (hd : d.stack ≠ []) (pre cs : List Char)
    (hpre : ∀ ds, "]]>".toList <:+: pre ++ ds → "]]>".toList <:+: ds) (h : '\r' ∉ pre ++ cs) :
    TakesAsIs ⟨d, .content⟩
      ("<![CDATA[".toList ++ (pre ++ (encodeCdata cs ++ "]]>".toList))) := by
  have hopen : TakesAsIs ⟨d, .content⟩ "<![CDATA[".toList := takesAsIs_of_isEven (by decide)
  rcases Xml.encodeCdata_cases cs with ⟨hno, heq⟩ | ⟨u, v, rfl, hno, heq⟩
  · rw [heq, ← List.append_assoc pre]
    exact hopen.append_of_feed feed_cdata_start
      (takesAsIs_section .cdata h (mt (hpre cs) hno))
  · have hsplit : pre ++ (encodeCdata (u ++ ("]]".toList ++ '>' :: v)) ++ "]]>".toList) =
        ((pre ++ (u ++ "]]".toList)) ++ "]]>".toList) ++
          ("<![CDATA[".toList ++ (['>'] ++ (encodeCdata v ++ "]]>".toList))) := by
      rw [heq]
      simp
    have hreturn : '\r' ∉ pre ++ (u ++ "]]".toList) ∧ '\r' ∉ ['>'] ++ v := by
      simp only [List.mem_append, List.mem_cons, not_or] at h ⊢
      exact ⟨⟨h.1, h.2.1, h.2.2.1⟩, ⟨h.2.2.2.1, List.not_mem_nil⟩, h.2.2.2.2⟩
    have hend := mt (hpre _) hno
    have hfirst : feed ⟨d, .within .cdata []⟩ ((pre ++ (u ++ "]]".toList)) ++ "]]>".toList) =
        some ⟨d.write (pre ++ (u ++ "]]".toList)), .content⟩ := by
      have hsection := feed_section (d := d) .cdata hend
      rw [List.append_assoc] at hsection
      exact hsection.trans (by simp [section?, hd])
    have hgt (ds : List Char) (hds : "]]>".toList <:+: ['>'] ++ ds) : "]]>".toList <:+: ds :=
      (List.infix_cons_iff.1 hds).resolve_left fun hstart =>
        absurd (List.cons_prefix_cons.1 hstart).1 (by decide)
    -- The next section starts with a bracket that cannot belong to an end in it.
    have hrest := takesAsIs_sections (d := d.write (pre ++ (u ++ "]]".toList))) (by simpa using hd)
      ['>'] v hgt hreturn.2
    rw [hsplit]
    refine hopen.append_of_feed feed_cdata_start (.append_of_feed ?_ hfirst hrest)
    exact takesAsIs_section .cdata hreturn.1 hend
termination_by cs.length
decreasing_by
  subst_vars
  simp only [List.length_append, List.length_cons]
  omega

theorem takesAsIs_cdata (hd : d.stack ≠ []) (h : '\r' ∉ cs) :
    TakesAsIs ⟨d, .content⟩ ("<![CDATA[".toList ++ encodeCdata cs ++ "]]>".toList) := by
  simpa using takesAsIs_sections hd [] cs (fun _ h => h) h

theorem takesAsIs_comment {m : Mode} (hm : m = .content ∨ m = .start) (hreturn : '\r' ∉ cs)
    (h : ¬ "--".toList <:+: cs) :
    TakesAsIs ⟨d, m⟩ ("<!--".toList ++ cs ++ "-->".toList) := by
  rw [List.append_assoc]
  refine (takesAsIs_of_isEven (by decide)).append_of_feed (feed_comment_start hm) ?_
  exact takesAsIs_section .comment hreturn fun hend =>
    h (List.IsInfix.trans ⟨[], ['>'], rfl⟩ hend)

theorem takesAsIs_instruction {m : Mode} (hm : m = .content ∨ m = .start) (hreturn : '\r' ∉ cs)
    (h : ¬ "?>".toList <:+: cs) : TakesAsIs ⟨d, m⟩ ("<?".toList ++ cs ++ "?>".toList) := by
  obtain ⟨first, hopen, -⟩ := feed_instruction_start (d := d) hm
  rw [List.append_assoc]
  refine (takesAsIs_of_isEven (by decide)).append_of_feed hopen ?_
  exact takesAsIs_section (.instruction first) hreturn h

/-! ### Attributes -/

theorem isInValue_of_tag? {t : Tag} (h : r.mode.tag? = some t) : r.mode.isInValue = false := by
  cases hm : r.mode <;> simp_all [Mode.tag?, Mode.isInValue]

theorem isEven_encodeAttribute (cs : List Char) : IsEven (encodeAttribute cs) := by
  have hchar (c : Char) : IsEven (attributeChar c) := by
    unfold attributeChar
    split
    · decide
    split
    · decide
    split
    · decide
    split
    · decide
    unfold textChar
    split
    · decide
    split
    · decide
    split
    · decide
    · -- Of white space there is only the space left.
      next hlf hcr htab _ _ _ =>
      simp [IsEven, isSpace, hlf, hcr, htab]
  intro c hc
  obtain ⟨x, -, hx⟩ := List.mem_flatMap.1 hc
  exact hchar x c hx

theorem isUnquoted_of_isName (h : isName cs = true) : IsUnquoted cs := by
  have hbare : IsUnquoted (bare cs) := fun c hc => by
    have hmark := (IsBare.of_isName h).isMark c hc
    exact ⟨ne_of_isMark hmark rfl, ne_of_isMark hmark rfl, ne_of_isMark hmark rfl⟩
  rcases eq_bare_of_isName h with hcs | hcs <;> rw [hcs]
  · exact hbare
  · exact List.forall_mem_append.2 ⟨hbare, (by decide : IsUnquoted ['\n'])⟩

/-- An attribute in a start tag, whatever its value is. -/
theorem takesAsIs_attribute (hr : r.mode.isInValue = false) (h : isName cs = true)
    (value : List Char) :
    r.TakesAsIs (' ' :: cs ++ "=\"".toList ++ encodeAttribute value ++ ['"']) := by
  have hname : IsUnquoted (' ' :: cs ++ ['=']) :=
    List.forall_mem_append.2 ⟨List.forall_mem_cons.2 ⟨by decide, isUnquoted_of_isName h⟩,
      (by decide : IsUnquoted ['='])⟩
  have hvalue : IsEven ('"' :: encodeAttribute value ++ ['"']) :=
    List.forall_mem_append.2
      ⟨List.forall_mem_cons.2 ⟨by decide, isEven_encodeAttribute value⟩,
        (by decide : IsEven ['"'])⟩
  have hsplit : ' ' :: cs ++ "=\"".toList ++ encodeAttribute value ++ ['"'] =
      (' ' :: cs ++ ['=']) ++ ('"' :: encodeAttribute value ++ ['"']) := by simp
  rw [hsplit]
  exact (takesAsIs_of_isUnquoted hr hname).append (fun q _ => takesAsIs_of_isEven hvalue)
    (takesAsIs_of_isEven (r := r) hvalue).noReturn

end Reader

end InstallerKit.Markup
