import InstallerKit.Proofs.Markup.Reader
import InstallerKit.Proofs.Text.Occurrence
import InstallerKit.Text.Hex
import InstallerKit.Text.Ranges

/-!
# The grammar of documents

What a well-formed document is, by the productions of XML 1.0 for documents without a
document type declaration: a document is an optional declaration, comments,
instructions and white space around one root element, and an element has content in
which character data stand between elements and other items. Of the entities there are
only the predefined ones. The grammar knows nothing of writers or readers.

A well-formed text often goes on being one with something after it. Content can be
followed by whatever can follow character data (`IsContent.append`).

* `IsContent`, `IsElement`, `IsDocument`: the productions;
* `IsContent.append_plain`, `IsContent.append_item`: what can follow content;
* `IsDocument.starts`: how a document starts.
-/

namespace InstallerKit.Markup.Xml

/-! ### Characters and names -/

/-- The characters of documents. -/
def isChar (c : Char) : Bool :=
  Text.Ranges.contains
    [(0x9, 0xa), (0xd, 0xd), (0x20, 0xd7ff), (0xe000, 0xfffd), (0x10000, 0x10ffff)] c.toNat

/-- The characters that a name starts with. -/
def isNameStart (c : Char) : Bool :=
  Text.Ranges.contains
    [(0x3a, 0x3a), (0x41, 0x5a), (0x5f, 0x5f), (0x61, 0x7a), (0xc0, 0xd6), (0xd8, 0xf6),
      (0xf8, 0x2ff), (0x370, 0x37d), (0x37f, 0x1fff), (0x200c, 0x200d), (0x2070, 0x218f),
      (0x2c00, 0x2fef), (0x3001, 0xd7ff), (0xf900, 0xfdcf), (0xfdf0, 0xfffd),
      (0x10000, 0xeffff)] c.toNat

/-- The characters of names. -/
def isNameChar (c : Char) : Bool :=
  isNameStart c || Text.Ranges.contains
    [(0x2d, 0x2e), (0x30, 0x39), (0xb7, 0xb7), (0x300, 0x36f), (0x203f, 0x2040)] c.toNat

def IsChars (cs : List Char) : Prop :=
  ∀ c ∈ cs, isChar c = true

/-- White space, which may be none. -/
def IsSpaces (cs : List Char) : Prop :=
  ∀ c ∈ cs, isSpace c = true

structure IsName (cs : List Char) : Prop where
  start : ∃ c rest, cs = c :: rest ∧ isNameStart c = true
  chars : ∀ c ∈ cs, isNameChar c = true

/-! ### References and values -/

/-- The number that digits stand for. -/
def numeral (base : Nat) (digits : List Char) : Nat :=
  digits.foldl (fun n d => base * n + Text.hexValue d) 0

/-- A reference to a predefined entity, or to a character by its code point. -/
inductive IsReference : List Char → Prop
  | entity {name : String} (h : name ∈ ["amp", "lt", "gt", "apos", "quot"]) :
    IsReference ('&' :: name.toList ++ [';'])
  | decimal {digits : List Char} {c : Char} (hd : ∀ d ∈ digits, d.isDigit = true)
    (hv : numeral 10 digits = c.toNat) (hc : isChar c = true) :
    IsReference ("&#".toList ++ digits ++ [';'])
  | hexadecimal {digits : List Char} {c : Char} (hd : ∀ d ∈ digits, Text.isHexDigit d = true)
    (hv : numeral 16 digits = c.toNat) (hc : isChar c = true) :
    IsReference ("&#x".toList ++ digits ++ [';'])

/-- An attribute's value between two of the quotes `q`. -/
inductive IsValue (q : Char) : List Char → Prop
  | nil : IsValue q []
  | char {c : Char} {cs : List Char} (hc : isChar c = true) (hmark : c ≠ '<' ∧ c ≠ '&' ∧ c ≠ q)
    (h : IsValue q cs) : IsValue q (c :: cs)
  | reference {r cs : List Char} (hr : IsReference r) (h : IsValue q cs) : IsValue q (r ++ cs)

def IsQuote (q : Char) : Prop :=
  q = '"' ∨ q = '\''

/-! ### Tags -/

/-- Attributes of different names, each with white space before it. -/
inductive IsAttributes : (names : List (List Char)) → List Char → Prop
  | nil : IsAttributes [] []
  | snoc {names : List (List Char)} {name cs s s₁ s₂ value : List Char} {q : Char}
    (h : IsAttributes names cs) (hne : s ≠ []) (hs : IsSpaces s) (hname : IsName name)
    (hnew : name ∉ names) (hs₁ : IsSpaces s₁) (hs₂ : IsSpaces s₂) (hq : IsQuote q)
    (hvalue : IsValue q value) :
    IsAttributes (names ++ [name])
      (cs ++ (s ++ (name ++ (s₁ ++ '=' :: (s₂ ++ q :: (value ++ [q]))))))

/-- The tag of an element with a name and attributes, but for its end. -/
def IsTag (name : List Char) (names : List (List Char)) (cs : List Char) : Prop :=
  ∃ attributes s, cs = '<' :: (name ++ (attributes ++ s)) ∧ IsName name ∧
    IsAttributes names attributes ∧ IsSpaces s

/-- An element without content, written as one tag. -/
def IsEmptyElement (cs : List Char) : Prop :=
  ∃ name names tag, IsTag name names tag ∧ cs = tag ++ "/>".toList

/-- A content between a start tag and the end tag that belongs to it. -/
def IsEnclosed (content cs : List Char) : Prop :=
  ∃ name names tag s, IsTag name names tag ∧ IsSpaces s ∧
    cs = tag ++ ('>' :: (content ++ ("</".toList ++ (name ++ (s ++ ['>'])))))

/-! ### Content -/

structure IsCharData (cs : List Char) : Prop where
  chars : IsChars cs
  lt : '<' ∉ cs
  amp : '&' ∉ cs
  notEnd : ¬ "]]>".toList <:+: cs

def IsCdata (cs : List Char) : Prop :=
  ∃ text, cs = "<![CDATA[".toList ++ (text ++ "]]>".toList) ∧ IsChars text ∧
    ¬ "]]>".toList <:+: text

def IsComment (cs : List Char) : Prop :=
  ∃ text, cs = "<!--".toList ++ (text ++ "-->".toList) ∧ IsChars text ∧
    ¬ "--".toList <:+: text ∧ text.getLast? ≠ some '-'

/-- The target of an instruction is no `xml`, in whatever letters. -/
def IsInstruction (cs : List Char) : Prop :=
  ∃ target s data, cs = "<?".toList ++ (target ++ (s ++ (data ++ "?>".toList))) ∧
    IsName target ∧ target.map Char.toLower ≠ "xml".toList ∧ IsSpaces s ∧
    (s = [] → data = []) ∧ IsChars data ∧ ¬ "?>".toList <:+: data

/-- What may stand between character data, apart from elements with content. -/
def IsItem (cs : List Char) : Prop :=
  IsReference cs ∨ IsCdata cs ∨ IsComment cs ∨ IsInstruction cs ∨ IsEmptyElement cs

/-- Character data, with items and elements between them. -/
inductive IsContent : List Char → Prop
  | text {d : List Char} (h : IsCharData d) : IsContent d
  | item {d x cs : List Char} (hd : IsCharData d) (hx : IsItem x) (h : IsContent cs) :
    IsContent (d ++ (x ++ cs))
  | enclosed {d content x cs : List Char} (hd : IsCharData d) (hc : IsContent content)
    (hx : IsEnclosed content x) (h : IsContent cs) : IsContent (d ++ (x ++ cs))

def IsElement (cs : List Char) : Prop :=
  IsEmptyElement cs ∨ ∃ content, IsContent content ∧ IsEnclosed content cs

/-! ### Documents -/

/-- What may stand before and after the root element. -/
def IsMisc (cs : List Char) : Prop :=
  IsSpaces cs ∨ IsComment cs ∨ IsInstruction cs

def AreMisc (cs : List Char) : Prop :=
  ∃ xs : List (List Char), cs = xs.flatten ∧ ∀ x ∈ xs, IsMisc x

/-- A part of a declaration: a name, and a value in quotes. -/
def IsSetting (name : String) (P : List Char → Prop) (cs : List Char) : Prop :=
  ∃ s s₁ s₂ q value, cs = s ++ (name.toList ++ (s₁ ++ '=' :: (s₂ ++ q :: (value ++ [q])))) ∧
    s ≠ [] ∧ IsSpaces s ∧ IsSpaces s₁ ∧ IsSpaces s₂ ∧ IsQuote q ∧ P value

def IsVersion (cs : List Char) : Prop :=
  ∃ digits, cs = "1.".toList ++ digits ∧ digits ≠ [] ∧ ∀ d ∈ digits, d.isDigit = true

def IsEncoding (cs : List Char) : Prop :=
  ∃ c rest, cs = c :: rest ∧ c.isAlpha = true ∧
    ∀ x ∈ rest, x.isAlphanum = true ∨ x ∈ ['.', '_', '-']

def IsDeclaration (cs : List Char) : Prop :=
  ∃ version encoding standalone s,
    cs = "<?xml".toList ++ (version ++ (encoding ++ (standalone ++ (s ++ "?>".toList)))) ∧
    IsSetting "version" IsVersion version ∧
    (encoding = [] ∨ IsSetting "encoding" IsEncoding encoding) ∧
    (standalone = [] ∨ IsSetting "standalone" (· ∈ ["yes".toList, "no".toList]) standalone) ∧
    IsSpaces s

def IsProlog (cs : List Char) : Prop :=
  ∃ declaration misc, cs = declaration ++ misc ∧ (declaration = [] ∨ IsDeclaration declaration) ∧
    AreMisc misc

/-- A well-formed document. -/
def IsDocument (cs : List Char) : Prop :=
  ∃ prolog root epilog, cs = prolog ++ (root ++ epilog) ∧ IsProlog prolog ∧ IsElement root ∧
    AreMisc epilog

theorem isDeclaration_standard :
    IsDeclaration "<?xml version=\"1.0\" encoding=\"utf-8\"?>".toList := by
  have hspace : [' '] ≠ [] ∧ IsSpaces [' '] ∧ IsSpaces [] ∧ IsSpaces [] ∧ IsQuote '"' :=
    ⟨by simp, by simp [IsSpaces, isSpace], by simp [IsSpaces], by simp [IsSpaces], .inl rfl⟩
  obtain ⟨hne, hs, hs₁, hs₂, hq⟩ := hspace
  refine ⟨" version=\"1.0\"".toList, " encoding=\"utf-8\"".toList, [], [], rfl, ?_, .inr ?_,
    .inl rfl, hs₁⟩
  · exact ⟨[' '], [], [], '"', "1.0".toList, rfl, hne, hs, hs₁, hs₂, hq, ['0'], rfl, by simp,
      by simp⟩
  · exact ⟨[' '], [], [], '"', "utf-8".toList, rfl, hne, hs, hs₁, hs₂, hq, 'u', "tf-8".toList,
      rfl, by decide, by simp⟩

/-! ### What can follow -/

theorem IsSpaces.append {cs ds : List Char} (h : IsSpaces cs) (h' : IsSpaces ds) :
    IsSpaces (cs ++ ds) :=
  List.forall_mem_append.2 ⟨h, h'⟩

theorem IsCharData.nil : IsCharData [] := ⟨by simp [IsChars], by simp, by simp, by simp⟩

theorem IsTag.append_attribute {name x tag value : List Char} {names : List (List Char)}
    (h : IsTag name names tag) (hx : IsName x) (hnew : x ∉ names) (hvalue : IsValue '"' value) :
    IsTag name (names ++ [x]) (tag ++ (' ' :: x ++ "=\"".toList ++ value ++ ['"'])) := by
  obtain ⟨attributes, s, rfl, hname, hattributes, hs⟩ := h
  have hspace : IsSpaces (s ++ [' ']) := hs.append (by simp [IsSpaces, isSpace])
  have hnone : IsSpaces [] := by simp [IsSpaces]
  exact ⟨_, [], by simp, hname,
    hattributes.snoc (by simp) hspace hx hnew hnone hnone (.inl rfl) hvalue, hnone⟩

/-- Content can be followed by what can follow character data. -/
theorem IsContent.append {x : List Char} (hx : ∀ d, IsCharData d → IsContent (d ++ x))
    {cs : List Char} (h : IsContent cs) : IsContent (cs ++ x) := by
  induction h with
  | text h => exact hx _ h
  | item hd hi _ ih =>
    rw [List.append_assoc, List.append_assoc]
    exact .item hd hi ih
  | enclosed hd hc hi _ _ ih =>
    rw [List.append_assoc, List.append_assoc]
    exact .enclosed hd hc hi ih

theorem IsContent.append_item {cs x : List Char} (h : IsContent cs) (hx : IsItem x) :
    IsContent (cs ++ x) := by
  refine h.append fun d hd => ?_
  rw [← List.append_nil x]
  exact .item hd hx (.text .nil)

theorem IsContent.append_element {cs x : List Char} (h : IsContent cs) (hx : IsElement x) :
    IsContent (cs ++ x) := by
  rcases hx with hx | ⟨content, hc, hx⟩
  · exact h.append_item (.inr (.inr (.inr (.inr hx))))
  · refine h.append fun d hd => ?_
    rw [← List.append_nil x]
    exact .enclosed hd hc hx (.text .nil)

/-- Character data can follow content as long as they end no section. -/
theorem IsContent.append_plain {cs d : List Char} (h : IsContent cs) (hd : IsCharData d)
    (hgt : '>' ∉ d) : IsContent (cs ++ d) := by
  refine h.append fun d' hd' => .text ⟨?_, ?_, ?_, fun hend => hd'.notEnd ?_⟩
  · exact List.forall_mem_append.2 ⟨hd'.chars, hd.chars⟩
  · simp [hd'.lt, hd.lt]
  · simp [hd'.amp, hd.amp]
  · -- The end of a section would have its last character in `d`.
    have hend : "]]".toList ++ ['>'] <:+: d' ++ d := hend
    exact Text.infix_of_append_infix hgt hend

theorem IsContent.append_spaces {cs s : List Char} (h : IsContent cs) (hs : IsSpaces s) :
    IsContent (cs ++ s) := by
  have hne (c : Char) (hc : isSpace c = false) : c ∉ s := fun hmem => by
    rw [hs c hmem] at hc
    cases hc
  refine h.append_plain ⟨fun c hc => ?_, hne _ rfl, hne _ rfl, fun hend => ?_⟩ (hne _ rfl)
  · have hc := hs c hc
    simp only [isSpace, Bool.or_eq_true, decide_eq_true_eq] at hc
    rcases hc with ((rfl | rfl) | rfl) | rfl <;> decide
  · exact hne ']' rfl (hend.subset (by decide))

theorem AreMisc.append_misc {ms x : List Char} (h : AreMisc ms) (hx : IsMisc x) :
    AreMisc (ms ++ x) := by
  obtain ⟨xs, rfl, hxs⟩ := h
  exact ⟨xs ++ [x], by simp, List.forall_mem_append.2 ⟨hxs, by simpa using hx⟩⟩

/-! ### How documents start -/

theorem isNameChar_of_isSpace {c : Char} (h : isSpace c = true) : isNameChar c = false := by
  simp only [isSpace, Bool.or_eq_true, decide_eq_true_eq] at h
  rcases h with ((rfl | rfl) | rfl) | rfl <;> decide

theorem IsElement.starts {cs : List Char} (h : IsElement cs) :
    ∃ c rest, cs = '<' :: c :: rest ∧ isNameStart c = true := by
  obtain ⟨name, names, tag, rest, htag, rfl⟩ :
      ∃ name names tag rest, IsTag name names tag ∧ cs = tag ++ rest := by
    rcases h with ⟨name, names, tag, htag, rfl⟩ | ⟨-, -, name, names, tag, -, htag, -, rfl⟩
    · exact ⟨name, names, tag, _, htag, rfl⟩
    · exact ⟨name, names, tag, _, htag, rfl⟩
  obtain ⟨attributes, s, rfl, ⟨⟨c, more, rfl, hc⟩, -⟩, -, -⟩ := htag
  exact ⟨c, _, rfl, hc⟩

/-- Only a declaration and an instruction start with a question mark in a bracket. -/
theorem IsDocument.starts {cs : List Char} (h : IsDocument ('<' :: '?' :: cs)) :
    ∃ x, x <+: '<' :: '?' :: cs ∧ (IsDeclaration x ∨ IsInstruction x) := by
  obtain ⟨-, root, epilog, heq, ⟨d, -, rfl, hd, xs, rfl, hxs⟩, hroot, -⟩ := h
  rcases hd with rfl | hd
  · induction xs with
    | nil =>
      obtain ⟨c, rest, rfl, hc⟩ := hroot.starts
      obtain ⟨rfl, -⟩ : '?' = c ∧ cs = rest ++ epilog := by simpa using heq
      exact absurd hc (by decide)
    | cons x xs ih =>
      obtain ⟨hx, hrest⟩ := List.forall_mem_cons.1 hxs
      rcases hx with hspaces | ⟨text, rfl, -⟩ | hinstruction
      · cases x with
        | nil => exact ih hrest heq
        | cons c x =>
          obtain ⟨rfl, -⟩ : '<' = c ∧ '?' :: cs = x ++ (xs.flatten ++ (root ++ epilog)) := by
            simpa using heq
          exact absurd (hspaces '<' (by simp)) (by decide)
      · exact absurd (congrArg (·[1]?) heq) (by simp)
      · exact ⟨x, ⟨_, by simpa using heq.symm⟩, .inr hinstruction⟩
  · exact ⟨d, ⟨_, by simpa using heq.symm⟩, .inl hd⟩

/-- The name that an instruction starts with is its target. -/
theorem IsInstruction.target {x cs : List Char} (h : IsInstruction x)
    (hx : x <+: '<' :: '?' :: cs) : (cs.takeWhile isNameChar).map Char.toLower ≠ "xml".toList := by
  obtain ⟨target, s, data, rfl, hname, hreserved, hs, hdata, -⟩ := h
  obtain ⟨rest, heq⟩ := hx
  obtain rfl : target ++ (s ++ (data ++ "?>".toList ++ rest)) = cs := by simpa using heq
  have hend : (s ++ (data ++ "?>".toList ++ rest)).takeWhile isNameChar = [] := by
    cases s with
    | nil =>
      rw [hdata rfl]
      rfl
    | cons c s => simp [isNameChar_of_isSpace (hs c (by simp))]
  rwa [List.takeWhile_append_of_pos hname.chars, hend, List.append_nil]

/-- A declaration gives the version first. -/
theorem IsDeclaration.starts {x cs : List Char} (h : IsDeclaration x)
    (hx : x <+: "<?xml".toList ++ cs) :
    ∃ s, s ≠ [] ∧ IsSpaces s ∧ s ++ "version".toList <+: cs := by
  obtain ⟨version, encoding, standalone, s, rfl, hversion, -⟩ := h
  obtain ⟨s₀, s₁, s₂, q, value, rfl, hne, hs₀, -⟩ := hversion
  obtain ⟨rest, heq⟩ := hx
  exact ⟨s₀, hne, hs₀, _, by simpa using heq⟩

end InstallerKit.Markup.Xml
