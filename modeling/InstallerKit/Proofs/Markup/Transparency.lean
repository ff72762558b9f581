import InstallerKit.Proofs.Markup.Protection
import Mathlib.Logic.Function.Iterate

/-!
# The layer is transparent

A call may come to the writer directly, or through any number of layers that protect
literal dollars. Protecting a text is *gentle*: it finds out nothing new about the text
that the writer asks for before it writes it, which is whether it is empty, whether it
is blank, and which is the first forbidden character in it. So the writer accepts and
refuses the same calls and is in the same state after each of them. Only what it writes
of a text is another text, which the writer spells as it spells any.

* `IsGentle.escape`: protecting a text is gentle;
* `step_mapText`: the answer to a call whose text has been changed gently;
* `replies_escapedBy`: the answers to calls that come through layers.
-/

namespace InstallerKit.Preprocessor

/-! ### Protecting and spelling -/

/-- A spelling of characters that leaves dollars and parentheses as they are, and has
    none for other characters. -/
def IsNeutral (f : Char → List Char) : Prop :=
  ∀ c, f c = [c] ∨ (c ≠ '$' ∧ c ≠ '(' ∧ c ≠ ')') ∧ f c ≠ [] ∧ '$' ∉ f c ∧ '(' ∉ f c ∧ ')' ∉ f c

theorem escape_append_of_not_mem {cs : List Char} (h : '$' ∉ cs) (ds : List Char) :
    escape (cs ++ ds) = cs ++ escape ds := by
  induction cs with
  | nil => rfl
  | cons c cs ih =>
    simp only [List.mem_cons, not_or] at h
    rw [List.cons_append, escape, if_neg fun hc => h.1 hc.1.symm, ih h.2, List.cons_append]

variable {f : Char → List Char}

theorem IsNeutral.mem_flatMap_iff (hf : IsNeutral f) {cs : List Char} :
    ')' ∈ cs.flatMap f ↔ ')' ∈ cs := by
  rw [List.mem_flatMap]
  constructor
  · rintro ⟨c, hc, hmem⟩
    rcases hf c with h | ⟨-, -, -, -, h⟩
    · rw [h, List.mem_singleton] at hmem
      rwa [hmem]
    · exact absurd hmem h
  · intro hc
    refine ⟨')', hc, ?_⟩
    rcases hf ')' with h | ⟨h, -⟩
    · rw [h]
      exact List.mem_singleton_self _
    · exact absurd rfl h.2.2

theorem IsNeutral.opensReference_flatMap (hf : IsNeutral f) (cs : List Char) :
    opensReference (cs.flatMap f) = opensReference cs := by
  cases cs with
  | nil => rfl
  | cons c cs =>
    rw [List.flatMap_cons]
    rcases hf c with h | ⟨hc, hne, -, hopen, -⟩
    · rw [h, List.singleton_append, opensReference, opensReference, Bool.eq_iff_iff]
      simp [hf.mem_flatMap_iff]
    · -- Neither text starts with a parenthesis.
      obtain ⟨x, u, hx⟩ := List.exists_cons_of_ne_nil hne
      rw [hx, List.mem_cons, not_or] at hopen
      have hx' : (x == '(') = false := beq_eq_false_iff_ne.2 (Ne.symm hopen.1)
      have hc' : (c == '(') = false := beq_eq_false_iff_ne.2 hc.2.1
      rw [hx, List.cons_append, opensReference, opensReference, hx', hc', Bool.false_and,
        Bool.false_and]

/-- A text may be spelled before or after it is protected. -/
theorem IsNeutral.escape_flatMap (hf : IsNeutral f) (cs : List Char) :
    escape (cs.flatMap f) = (escape cs).flatMap f := by
  induction cs with
  | nil => rfl
  | cons c cs ih =>
    rw [List.flatMap_cons, escape]
    rcases hf c with h | ⟨hc, -, hdollar, -, -⟩
    · rw [h, List.singleton_append, escape, hf.opensReference_flatMap, ih]
      split
      · next hd =>
        obtain ⟨rfl, -⟩ := hd
        simp [h]
      · simp [h]
    · rw [escape_append_of_not_mem hdollar, ih, if_neg fun hd => hc.1 hd.1, List.flatMap_cons]

end InstallerKit.Preprocessor

namespace InstallerKit.Markup

open Preprocessor (escape IsNeutral)

theorem isNeutral_textChar : IsNeutral textChar := by
  intro c
  unfold textChar
  split
  · next h => subst h; exact .inr (by decide)
  split
  · next h => subst h; exact .inr (by decide)
  split
  · next h => subst h; exact .inr (by decide)
  · exact .inl rfl

theorem isNeutral_attributeChar : IsNeutral attributeChar := by
  intro c
  unfold attributeChar
  split
  · next h => subst h; exact .inr (by decide)
  split
  · next h => subst h; exact .inr (by decide)
  split
  · next h => subst h; exact .inr (by decide)
  split
  · next h => subst h; exact .inr (by decide)
  · exact isNeutral_textChar c

theorem commute_encodeText : Function.Commute encodeText escape := fun cs =>
  (isNeutral_textChar.escape_flatMap cs).symm

theorem commute_encodeAttribute : Function.Commute encodeAttribute escape := fun cs =>
  (isNeutral_attributeChar.escape_flatMap cs).symm

/-! ### Gentle changes -/

/-- A change of texts that a writer does not notice before it writes the text. -/
structure IsGentle (f : List Char → List Char) : Prop where
  eq_nil_iff : ∀ cs, f cs = [] ↔ cs = []
  all_isBlank : ∀ cs, (f cs).all Text.isBlank = cs.all Text.isBlank
  find?_isForbidden : ∀ cs, (f cs).find? isForbidden = cs.find? isForbidden

namespace IsGentle

theorem refl : IsGentle id := ⟨fun _ => Iff.rfl, fun _ => rfl, fun _ => rfl⟩

theorem comp {f g : List Char → List Char} (hf : IsGentle f) (hg : IsGentle g) :
    IsGentle (f ∘ g) where
  eq_nil_iff cs := (hf.eq_nil_iff _).trans (hg.eq_nil_iff cs)
  all_isBlank cs := (hf.all_isBlank _).trans (hg.all_isBlank cs)
  find?_isForbidden cs := (hf.find?_isForbidden _).trans (hg.find?_isForbidden cs)

theorem iterate {f : List Char → List Char} (hf : IsGentle f) (n : Nat) : IsGentle f^[n] := by
  induction n with
  | zero => exact refl
  | succ n ih => exact ih.comp hf

/-- Protecting a text doubles some of the dollars in it, which are neither blank nor
    forbidden. -/
theorem escape : IsGentle Preprocessor.escape where
  eq_nil_iff cs := by
    cases cs with
    | nil => exact Iff.rfl
    | cons c cs =>
      rw [Preprocessor.escape]
      split <;> simp
  all_isBlank cs := by
    induction cs with
    | nil => rfl
    | cons c cs ih =>
      rw [Preprocessor.escape]
      split
      · next hc =>
        have hdollar : Text.isBlank '$' = false := by decide
        rw [hc.1]
        simp [hdollar]
      · rw [List.all_cons, List.all_cons, ih]
  find?_isForbidden cs := by
    induction cs with
    | nil => rfl
    | cons c cs ih =>
      rw [Preprocessor.escape]
      split
      · next hc =>
        have hdollar : isForbidden '$' = false := by decide
        rw [hc.1]
        simp [hdollar, ih]
      · rw [List.find?_cons, List.find?_cons, ih]

end IsGentle

/-! ### Calls with another text -/

/-- The call with its text changed. -/
def Call.mapText (f : List Char → List Char) : Call → Call
  | .attribute name value => .attribute name (.text (.ofList (f value.display.toList)))
  | .characters text => .characters (.ofList (f text.toList))
  | .characterSlice buffer start length =>
    .characters (.ofList (f (buffer.sliceText start length).toList))
  | .cdata text => .cdata (.ofList (f text.toList))
  | c => c

/-- The text of a call, changed and then spelled as the writer spells it. -/
def Call.spelling (f : List Char → List Char) : Call → List Char
  | .attribute _ value => encodeAttribute (f value.display.toList)
  | .characters text => encodeText (f text.toList)
  | .characterSlice buffer start length => encodeText (f (buffer.sliceText start length).toList)
  | .cdata text => encodeCdata (f text.toList)
  | _ => []

/-- What is written after the text of a call. -/
def Call.trail : Call → List Char
  | .attribute .. => ['"']
  | .cdata _ => "]]>".toList
  | _ => []

namespace Writer

/-- What a writer writes before the text of a call. -/
def lead (w : Writer) : Call → List Char
  | .attribute name _ => ' ' :: name.display.toList ++ "=\"".toList
  | .characters text => if text = "" then [] else w.closeTag.text
  | .characterSlice buffer start length =>
    if buffer.sliceText start length = "" then [] else w.closeTag.text
  | .cdata _ => w.closeTag.text ++ "<![CDATA[".toList
  | _ => []

/-- Whether a writer writes the text of a call: the call gives one, it is accepted, and
    it is in an element. -/
def takesText (w : Writer) (c : Call) : Bool :=
  c.isProtected && (w.step c).error.isNone && !(w.step c).writer.stack.isEmpty

/-- What a writer writes for a call, but with the text of the call changed. -/
def textWith (f : List Char → List Char) (w : Writer) (c : Call) : List Char :=
  if w.takesText c then w.lead c ++ c.spelling f ++ c.trail else (w.step c).text

section Gentle

variable {f : List Char → List Char} (hf : IsGentle f) (w : Writer)
include hf

theorem attribute_mapText (name value : Datum) :
    w.step ((Call.attribute name value).mapText f) =
      { w.step (.attribute name value) with text := w.textWith f (.attribute name value) } := by
  have hvalue : (Datum.text (.ofList (f value.display.toList))).display.toList =
    f value.display.toList := String.toList_ofList
  rw [textWith, takesText, Call.mapText, step, step, addAttribute, addAttribute, hvalue,
    hf.find?_isForbidden]
  cases hp : w.pending with
  | false => rfl
  | true =>
    cases hs : w.stack with
    | nil => rfl
    | cons e es =>
      cases name with
      | text s =>
        dsimp only
        split
        · rfl
        split
        · rfl
        split
        · rfl
        · simp [Reply.ok, Call.isProtected, mapTop, hs, lead, Call.spelling, Call.trail,
            Datum.display]
      | _ => rfl

theorem characters_mapText (text : String) :
    w.step ((Call.characters text).mapText f) =
      { w.step (.characters text) with text := w.textWith f (.characters text) } := by
  have hempty : String.ofList (f text.toList) = "" ↔ text = "" := by
    rw [← String.toList_eq_nil_iff, String.toList_ofList, hf.eq_nil_iff, String.toList_eq_nil_iff]
  rw [textWith, takesText, Call.mapText, step, step, characters, characters, String.toList_ofList,
    hf.find?_isForbidden, hf.all_isBlank, lead]
  by_cases h : text = ""
  · -- The change of an empty text is empty, too.
    simp [h, Reply.ok, Call.isProtected, Call.spelling, Call.trail, encodeText,
      (hf.eq_nil_iff []).2 rfl]
  rw [if_neg h, if_neg (mt hempty.1 h), if_neg h, andThen_of_error_eq_none w.closeTag_error,
    andThen_of_error_eq_none w.closeTag_error]
  cases hs : w.closeTag.writer.stack with
  | nil =>
    dsimp only
    split
    · simp [Reply.ok, hs]
    · rfl
  | cons e es =>
    dsimp only
    split
    · rfl
    · simp [Reply.ok, Call.isProtected, mapTop, hs, Call.spelling, Call.trail]

theorem cdata_mapText (text : String) :
    w.step ((Call.cdata text).mapText f) =
      { w.step (.cdata text) with text := w.textWith f (.cdata text) } := by
  rw [textWith, takesText, Call.mapText, step, step, cdata, cdata, String.toList_ofList,
    hf.find?_isForbidden]
  split
  · rfl
  rw [andThen_of_error_eq_none w.closeTag_error, andThen_of_error_eq_none w.closeTag_error]
  cases hs : w.closeTag.writer.stack with
  | nil => rfl
  | cons e es =>
    simp [Reply.ok, Call.isProtected, mapTop, hs, lead, Call.spelling, Call.trail]

/-- To a call whose text has been changed the writer answers what it answers to the call
    itself, but for the text. -/
theorem step_mapText (c : Call) :
    w.step (c.mapText f) = { w.step c with text := w.textWith f c } := by
  cases c with
  | «attribute» name value => exact attribute_mapText hf w name value
  | characters text => exact characters_mapText hf w text
  | characterSlice buffer start length => exact characters_mapText hf w _
  | cdata text => exact cdata_mapText hf w text
  | _ => rfl

end Gentle

end Writer

/-! ### Layers -/

namespace Call

/-- An attribute has a text for its value. -/
def HasText : Call → Prop
  | .attribute _ value => ∃ s, value = .text s
  | _ => True

theorem mapText_mapText (f g : List Char → List Char) (c : Call) :
    (c.mapText f).mapText g = c.mapText (g ∘ f) := by
  cases c with
  | «attribute» => simp [mapText, Datum.display]
  | characters => simp [mapText]
  | characterSlice => simp [mapText]
  | cdata => simp [mapText]
  | _ => rfl

theorem hasText_mapText (f : List Char → List Char) (c : Call) : (c.mapText f).HasText := by
  cases c with
  | «attribute» => exact ⟨_, rfl⟩
  | _ => trivial

/-- One layer protects the text of a call. -/
theorem HasText.escaped {c : Call} (h : c.HasText) : c.escaped = .ok (c.mapText escape) := by
  cases c with
  | «attribute» name value =>
    obtain ⟨s, rfl⟩ := h
    rfl
  | _ => rfl

/-- The slice of a buffer is the text that it is. -/
theorem HasText.step_mapText_id {c : Call} (h : c.HasText) (w : Writer) :
    w.step c = w.step (c.mapText id) := by
  cases c with
  | «attribute» name value =>
    obtain ⟨s, rfl⟩ := h
    simp [mapText, Datum.display]
  | characters => simp [mapText]
  | characterSlice => simp [mapText, Writer.step]
  | cdata => simp [mapText]
  | _ => rfl

/-- Layers let a call through. The writer does not tell what comes out of them from the call
    with its text protected as often. -/
theorem HasText.escapedBy {c : Call} (h : c.HasText) (n : Nat) :
    ∃ d, c.escapedBy n = .ok d ∧ ∀ w : Writer, w.step d = w.step (c.mapText escape^[n]) := by
  induction n generalizing c with
  | zero => exact ⟨c, rfl, h.step_mapText_id⟩
  | succ n ih =>
    obtain ⟨d, hd, hstep⟩ := ih (hasText_mapText escape c)
    refine ⟨d, ?_, fun w => ?_⟩
    · rw [Call.escapedBy, h.escaped]
      exact hd
    · rw [hstep, mapText_mapText, Function.iterate_succ]

end Call

namespace Writer

/-- What is written for each of some calls, but with their texts changed. -/
def textsWith (f : List Char → List Char) : Writer → List Call → List (List Char)
  | _, [] => []
  | w, c :: cs => w.textWith f c :: (w.step c).writer.textsWith f cs

/-- Calls may come through any number of layers, or directly: the same ones are refused, for
    the same reason, and the writer is the same after each of them. What is written for
    them differs in their texts only, each of which is protected once by every layer.
    It makes no difference whether that is done before or after the text is spelled. -/
theorem replies_escapedBy (n : Nat) (w : Writer) (cs : List Call) (h : ∀ c ∈ cs, c.HasText) :
    ∃ ds : List Call, cs.map (Call.escapedBy n) = ds.map .ok ∧
      (w.replies ds).map Reply.writer = (w.replies cs).map Reply.writer ∧
      (w.replies ds).map Reply.error = (w.replies cs).map Reply.error ∧
      (w.replies cs).map Reply.text = w.textsWith id cs ∧
      (w.replies ds).map Reply.text = w.textsWith escape^[n] cs ∧
      Function.Commute encodeText escape^[n] ∧ Function.Commute encodeAttribute escape^[n] := by
  suffices h : ∃ ds : List Call, cs.map (Call.escapedBy n) = ds.map .ok ∧
      (w.replies ds).map Reply.writer = (w.replies cs).map Reply.writer ∧
      (w.replies ds).map Reply.error = (w.replies cs).map Reply.error ∧
      (w.replies cs).map Reply.text = w.textsWith id cs ∧
      (w.replies ds).map Reply.text = w.textsWith escape^[n] cs by
    obtain ⟨ds, hds, hwriter, herror, hdirect, hlayered⟩ := h
    exact ⟨ds, hds, hwriter, herror, hdirect, hlayered, commute_encodeText.iterate_right n,
      commute_encodeAttribute.iterate_right n⟩
  induction cs generalizing w with
  | nil => exact ⟨[], rfl, rfl, rfl, rfl, rfl⟩
  | cons c cs ih =>
    rw [List.forall_mem_cons] at h
    obtain ⟨d, hd, hlayers⟩ := h.1.escapedBy n
    have hstep := (hlayers w).trans (step_mapText (IsGentle.escape.iterate n) w c)
    obtain ⟨ds, hds, hwriter, herror, hdirect, hlayered⟩ := ih (w.step c).writer h.2
    have hself : (w.step c).text = w.textWith id c := by
      rw [h.1.step_mapText_id, step_mapText IsGentle.refl]
    refine ⟨d :: ds, by rw [List.map_cons, hd, hds, List.map_cons], ?_⟩
    simp only [replies, textsWith, List.map_cons, hstep, hwriter, herror, hdirect, hlayered, hself,
      and_self]

theorem replies_escapedBy_two :
    let w := fresh (some " ")
    let cs : List Call := [.startElement "a", .attribute "b" "$(v\"", .attribute "b" "$",
      .emptyElement "c", .characters "$\x01", .characters "$", .cdata "$(]]>", .cdata "$]]>)",
      .characterSlice (.text "$(x)$") (-2) 1, .endElement, .characters "$"]
    (∀ c ∈ cs, c.HasText) ∧
    String.ofList (w.output cs) =
      "<a b=\"$(v&quot;\">\n <c/>$<![CDATA[$(]]]]><![CDATA[>]]><![CDATA[$]]]]><![CDATA[>)]]>)</a>" ∧
    ∃ ds : List Call, cs.map (Call.escapedBy 2) = ds.map .ok ∧
      (w.replies ds).map Reply.writer = (w.replies cs).map Reply.writer ∧
      ((w.replies ds).map Reply.error).map (Option.map Error.message) =
        [none, none, some "Duplicate attribute 'b' on element 'a'.", none,
          some "Character '\\x01' is not allowed in XML text content.", none, none, none, none, none,
          some "Text content written outside of the root element."] ∧
      ((w.replies ds).map Reply.text).map String.ofList =
        ["<a", " b=\"$$$$(v&quot;\"", "", ">\n <c", "/>", "$$$$",
          "<![CDATA[$$$$(]]]]><![CDATA[>]]>", "<![CDATA[$$$$]]]]><![CDATA[>)]]>", ")", "</a>", ""] := by
  intro w cs
  have h : ∀ c ∈ cs, c.HasText := by simp [cs, Call.HasText]
  obtain ⟨ds, hds, hwriter, herror, -, hlayered, -⟩ := replies_escapedBy 2 w cs h
  refine ⟨h, by decide +kernel, ds, hds, hwriter, ?_, ?_⟩
  · rw [herror]
    decide +kernel
  · rw [hlayered]
    decide +kernel

end Writer

end InstallerKit.Markup
