import InstallerKit.Markup.Error
import InstallerKit.Preprocessor

/-!
# Calls on a markup sink

A producer of markup does not see how the markup is written; it makes *calls*,
one for each thing to write. A call is a value, so that what a producer did can
be recorded, and what a layer between producer and writer does is a function on
calls: the layer that protects literal dollars changes texts and attribute
values and passes everything else on.

Names and attribute values may be data of any kind. A name that is no text is
refused by the writer, a value that is no text is written as it displays. The layer
lets a value pass that is no text if it can tell that there is no dollar in it.
-/

namespace InstallerKit.Markup

/-- A text to take a slice of: a text, or texts of which each counts as one. -/
inductive Buffer
  | text (value : String)
  | pieces (values : List String)
  deriving DecidableEq, Repr

namespace Buffer

/-- The place that an index stands for in a sequence of `length` items. A
    negative one counts from the end. -/
def position (length : Nat) (i : Int) : Nat :=
  if i < 0 then (length + i).toNat else min i.toNat length

/-- The items from `start` up to `start + length`, without the latter. -/
def slice {α : Type} (items : List α) (start length : Int) : List α :=
  let first := position items.length start
  let stop := position items.length (start + length)
  (items.take stop).drop first

/-- The text of a slice of the buffer. -/
def sliceText (b : Buffer) (start length : Int) : String :=
  match b with
  | text s => .ofList (slice s.toList start length)
  | pieces ps => .join (slice ps start length)

end Buffer

/-- A call on a markup sink. -/
inductive Call
  | startDocument (version encoding : String)
  | endDocument
  | startElement (name : Datum)
  /-- Starts an element that will have no content. -/
  | emptyElement (name : Datum)
  | endElement
  | defaultNamespace (uri : Datum)
  | declareNamespace (label uri : Datum)
  | attribute (name value : Datum)
  | characters (text : String)
  | characterSlice (buffer : Buffer) (start length : Int)
  | cdata (text : String)
  | comment (text : String)
  | instruction (target : String) (data : Option String)
  | flush
  deriving Repr

namespace Call

/-- The name of a call, as a record of calls shows it. -/
def name : Call → String
  | startDocument .. => "start_document"
  | endDocument => "end_document"
  | startElement _ => "start_element"
  | emptyElement _ => "empty_element"
  | endElement => "end_element"
  | defaultNamespace _ => "default_namespace"
  | declareNamespace .. => "namespace"
  | .attribute .. => "attribute"
  | characters _ => "characters"
  | characterSlice .. => "character_slice"
  | cdata _ => "cdata"
  | comment _ => "comment"
  | instruction .. => "processing_instruction"
  | flush => "flush"

/-- The arguments of a call, as a record of calls shows them. -/
def arguments : Call → List Datum
  | startDocument version encoding => [.text version, .text encoding]
  | endDocument => []
  | startElement name => [name]
  | emptyElement name => [name]
  | endElement => []
  | defaultNamespace uri => [uri]
  | declareNamespace label uri => [label, uri]
  | .attribute name value => [name, value]
  | characters text => [.text text]
  | characterSlice (.text s) start length => [.text s, .integer start, .integer length]
  | characterSlice (.pieces ps) start length =>
    [.list (ps.map .text), .integer start, .integer length]
  | cdata text => [.text text]
  | comment text => [.text text]
  | instruction target data => [.text target, (data.map .text).getD .null]
  | flush => []

/-- Whether a datum is a dollar. -/
def isDollar : Datum → Bool
  | .text s => s = "$"
  | _ => false

/-- A value with its literal dollars protected. A list or a table passes if no
    member, or no key, is a dollar; what else is no text passes only if it counts as
    nothing. -/
def escapeValue (d : Datum) : Except Error Datum :=
  match d with
  | .text s => .ok (.text (Preprocessor.escapeText s))
  | .list items => if items.any isDollar then .error (.noText d.kind) else .ok d
  | .dict entries => if entries.any (·.1 = "$") then .error (.noText d.kind) else .ok d
  | d => if d.isNothing then .ok d else .error (.noMembers d.kind)

/-- The call that the layer which protects literal dollars makes in the place of
    a call. The slice of a buffer becomes the text that it is, as protecting it
    may change its length. -/
def escaped : Call → Except Error Call
  | .attribute name value => (.attribute name ·) <$> escapeValue value
  | .characters text => .ok (.characters (Preprocessor.escapeText text))
  | .characterSlice buffer start length =>
    .ok (.characters (Preprocessor.escapeText (buffer.sliceText start length)))
  | .cdata text => .ok (.cdata (Preprocessor.escapeText text))
  | c => .ok c

/-- The call that comes out of `n` such layers. -/
def escapedBy : (n : Nat) → Call → Except Error Call
  | 0, c => .ok c
  | n + 1, c => c.escaped.bind (escapedBy n)

end Call

end InstallerKit.Markup
