import InstallerKit.Markup.Call
import InstallerKit.Markup.Error
import InstallerKit.Markup.Name
import InstallerKit.Text.Blank
import InstallerKit.Text.Occurrence

/-!
# The streaming writer

The writer turns calls into the text of a document as they come. It keeps the
elements that are open and never looks back at what it has written. A start tag
stays open, for the attributes that may follow it, until a call for something
else closes it.

With an indent, every child starts on a line of its own, unless text has been
written directly into its parent before it. Without one the writer adds nothing
to what the calls say, but for a line feed between the nodes of the top level.

A call is answered by a `Reply`: the writer afterwards, the text that the call
wrote, and the refusal, if it was refused. A refused call may already have
closed a start tag.
-/

namespace InstallerKit.Markup

/-- An element that is open. -/
structure OpenElement where
  name : String
  /-- Started as an element without content. -/
  isEmpty : Bool
  /-- Some child node has been written in it. -/
  hasChildren : Bool
  /-- Some text has been written directly in it. -/
  hasText : Bool
  /-- The names in its start tag. -/
  attributes : List String
  deriving DecidableEq, Repr

/-- A writer between two calls. -/
structure Writer where
  /-- One step of indentation; none for compact output. -/
  indent : Option String
  /-- The open elements, the innermost one first. -/
  stack : List OpenElement
  /-- The start tag of the innermost element is still open. -/
  pending : Bool
  /-- A declaration or a node has been written. -/
  started : Bool
  /-- The root element has been closed. -/
  rootClosed : Bool
  deriving DecidableEq, Repr

/-- The answer to a call. -/
structure Reply where
  writer : Writer
  /-- What the call wrote. -/
  text : List Char
  error : Option Error

namespace Reply

/-- The answer to a call that went well. -/
def ok (w : Writer) (text : List Char) : Reply := ⟨w, text, none⟩

/-- The answer to a call that is refused before it wrote anything. -/
def refuse (w : Writer) (e : Error) : Reply := ⟨w, [], some e⟩

/-- The reply to what comes after `r`, unless `r` is a refusal. -/
def andThen (r : Reply) (next : Writer → Reply) : Reply :=
  match r.error with
  | some _ => r
  | none =>
    let s := next r.writer
    ⟨s.writer, r.text ++ s.text, s.error⟩

end Reply

/-- The characters that may not occur in a document. -/
def isForbidden (c : Char) : Bool :=
  let n := c.toNat
  n ≤ 8 || n == 0xb || n == 0xc || (0xe ≤ n && n ≤ 0x1f) || n == 0xfffe || n == 0xffff

/-- A character of character data. -/
def textChar (c : Char) : List Char :=
  if c = '&' then "&amp;".toList
  else if c = '<' then "&lt;".toList
  else if c = '>' then "&gt;".toList
  else [c]

/-- A character of an attribute value. White space other than the space is written by
    its code point, as a reader would take it for a space. -/
def attributeChar (c : Char) : List Char :=
  if c = '"' then "&quot;".toList
  else if c = '\n' then "&#10;".toList
  else if c = '\r' then "&#13;".toList
  else if c = '\t' then "&#9;".toList
  else textChar c

def encodeText (cs : List Char) : List Char :=
  cs.flatMap textChar

def encodeAttribute (cs : List Char) : List Char :=
  cs.flatMap attributeChar

/-- The payload of a CDATA section: where it would end the section, the section
    is ended and another one begun. -/
def encodeCdata (cs : List Char) : List Char :=
  Text.replaceAll "]]>".toList "]]]]><![CDATA[>".toList cs

namespace Writer

/-- A writer that has written nothing. -/
def fresh (indent : Option String) : Writer := ⟨indent, [], false, false, false⟩

/-- The number of open elements. -/
def depth (w : Writer) : Nat :=
  w.stack.length

/-- A line break before something at the given depth. -/
def lineBreak (indent : String) (depth : Nat) : List Char :=
  '\n' :: (List.replicate depth indent.toList).flatten

/-- Takes the innermost element off the stack. -/
def pop (w : Writer) : Writer :=
  { w with stack := w.stack.tail, rootClosed := w.rootClosed || w.stack.tail.isEmpty }

/-- Changes the innermost element. -/
def mapTop (w : Writer) (f : OpenElement → OpenElement) : Writer :=
  { w with stack := match w.stack with
      | [] => []
      | e :: rest => f e :: rest }

/-- Closes a start tag that is open. The tag of an element without content
    closes the element. -/
def closeTag (w : Writer) : Reply :=
  if w.pending then
    let v := { w with pending := false }
    match w.stack with
    | [] => .ok v []
    | e :: _ => if e.isEmpty then .ok v.pop "/>".toList else .ok v ">".toList
  else .ok w []

/-- Makes room for a node: closes a start tag that is open and goes to a new line
    where the layout asks for one. -/
def beforeNode (w : Writer) : Reply :=
  w.closeTag.andThen fun w =>
    let v := { w with started := true }
    match w.stack with
    | [] => .ok v (if w.started then ['\n'] else [])
    | parent :: _ =>
      .ok (v.mapTop fun e => { e with hasChildren := true }) <|
        match w.indent with
        | some indent => if parent.hasText then [] else lineBreak indent w.depth
        | none => []

/-- The end tag of an element in which `above` elements are left open. -/
def endTag (indent : Option String) (e : OpenElement) (above : Nat) : List Char :=
  (match indent with
    | some indent => if e.hasChildren && !e.hasText then lineBreak indent above else []
    | none => []) ++ "</".toList ++ e.name.toList ++ ['>']

/-- The end tags of a stack of elements. -/
def endTags (indent : Option String) : List OpenElement → List Char
  | [] => []
  | e :: rest => endTag indent e rest.length ++ endTags indent rest

def startDocument (w : Writer) (version encoding : String) : Reply :=
  if w.started then .refuse w .lateDeclaration
  else .ok { w with started := true } <|
    "<?xml version=\"".toList ++ version.toList ++ "\" encoding=\"".toList ++ encoding.toList ++
      "\"?>".toList

/-- Closes everything that is open. -/
def endDocument (w : Writer) : Reply :=
  w.closeTag.andThen fun w =>
    .ok { w with stack := [], rootClosed := w.rootClosed || !w.stack.isEmpty } <|
      endTags w.indent w.stack ++ if w.started then ['\n'] else []

/-- An element whose start tag is still open gets no end tag: the start tag is
    closed as that of an empty element. -/
def endElement (w : Writer) : Reply :=
  let close (w : Writer) : Reply := w.closeTag.andThen fun w =>
    match w.stack with
    | [] => .refuse w .unmatchedEnd
    | e :: rest => .ok w.pop (endTag w.indent e rest.length)
  match w.stack with
  | e :: _ =>
    if w.pending && !e.isEmpty then .ok { w with pending := false }.pop "/>".toList else close w
  | [] => close w

def openElement (w : Writer) (name : Datum) (isEmpty : Bool) : Reply :=
  match name with
  | .text s =>
    if isName s.toList then
      w.closeTag.andThen fun w =>
        if w.stack.isEmpty && w.rootClosed then .refuse w (.secondRoot s)
        else w.beforeNode.andThen fun w =>
          .ok { w with stack := ⟨s, isEmpty, false, false, []⟩ :: w.stack, pending := true }
            ('<' :: s.toList)
    else .refuse w (.badName .element name)
  | _ => .refuse w (.badName .element name)

def addAttribute (w : Writer) (name value : Datum) : Reply :=
  match w.pending, w.stack with
  | true, e :: _ =>
    match name with
    | .text s =>
      if !isName s.toList then .refuse w (.badName .attribute name)
      else if s ∈ e.attributes then .refuse w (.repeatedAttribute s e.name)
      else
        match value.display.toList.find? isForbidden with
        | some c => .refuse w (.badCharacter c (.attribute s))
        | none =>
          .ok (w.mapTop fun e => { e with attributes := e.attributes ++ [s] }) <|
            ' ' :: s.toList ++ "=\"".toList ++ encodeAttribute value.display.toList ++ ['"']
    | _ => .refuse w (.badName .attribute name)
  | _, _ => .refuse w (.looseAttribute name)

def defaultNamespace (w : Writer) (uri : Datum) : Reply :=
  w.addAttribute "xmlns" uri

/-- Declares a namespace; without a label, or with the one that declares
    namespaces, the default one. -/
def declareNamespace (w : Writer) (label uri : Datum) : Reply :=
  if label.isNothing || label.display = "xmlns" then w.defaultNamespace uri
  else w.addAttribute (.text ("xmlns:" ++ label.display)) uri

/-- Blank text outside of the root element is dropped. -/
def characters (w : Writer) (text : String) : Reply :=
  if text = "" then .ok w []
  else w.closeTag.andThen fun w =>
    match w.stack with
    | [] => if text.toList.all Text.isBlank then .ok w [] else .refuse w .looseText
    | _ :: _ =>
      match text.toList.find? isForbidden with
      | some c => .refuse w (.badCharacter c .text)
      | none => .ok (w.mapTop fun e => { e with hasText := true }) (encodeText text.toList)

def cdata (w : Writer) (text : String) : Reply :=
  match text.toList.find? isForbidden with
  | some c => .refuse w (.badCharacter c .cdata)
  | none => w.closeTag.andThen fun w =>
    match w.stack with
    | [] => .refuse w .looseCdata
    | _ :: _ =>
      .ok (w.mapTop fun e => { e with hasText := true }) <|
        "<![CDATA[".toList ++ encodeCdata text.toList ++ "]]>".toList

def comment (w : Writer) (text : String) : Reply :=
  if Text.contains text "--" || text.toList.getLast? == some '-' then
    .refuse w (.badComment text)
  else
    match text.toList.find? isForbidden with
    | some c => .refuse w (.badCharacter c .comment)
    | none => w.beforeNode.andThen fun w =>
      .ok w ("<!--".toList ++ text.toList ++ "-->".toList)

def instruction (w : Writer) (target : String) (data : Option String) : Reply :=
  let data := data.getD ""
  if !isName target.toList || target.toLower = "xml" then .refuse w (.badTarget target)
  else if Text.contains data "?>" then .refuse w .badData
  else
    match data.toList.find? isForbidden with
    | some c => .refuse w (.badCharacter c .instruction)
    | none => w.beforeNode.andThen fun w =>
      .ok w <| "<?".toList ++ target.toList ++
        (if data = "" then [] else ' ' :: data.toList) ++ "?>".toList

/-- The answer to a call. -/
def step (w : Writer) : Call → Reply
  | .startDocument version encoding => w.startDocument version encoding
  | .endDocument => w.endDocument
  | .startElement name => w.openElement name false
  | .emptyElement name => w.openElement name true
  | .endElement => w.endElement
  | .defaultNamespace uri => w.defaultNamespace uri
  | .declareNamespace label uri => w.declareNamespace label uri
  | .attribute name value => w.addAttribute name value
  | .characters text => w.characters text
  | .characterSlice buffer start length => w.characters (buffer.sliceText start length)
  | .cdata text => w.cdata text
  | .comment text => w.comment text
  | .instruction target data => w.instruction target data
  | .flush => .ok w []

end Writer

end InstallerKit.Markup
