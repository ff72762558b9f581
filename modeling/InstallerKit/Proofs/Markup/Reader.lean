import InstallerKit.Proofs.Markup.Draft
import InstallerKit.Text.Digit
import InstallerKit.Text.Hex

/-!
# The reader

The reader takes a text character by character and builds the draft of what it says.
Between two characters it is in a `Mode`: in the midst of a name, of a value, of a
comment, and so on. It refuses a text in which the tags do not match, a reference
stands for nothing, there is text or a CDATA section outside of the root element, or
a second root element starts.

The reader knows nothing about the writer. It resolves the five named entities and
the references to characters by their code points, takes either kind of quotation
marks around values, and leaves the ends of lines as they are. A declaration stands
at the very start of the text. One white space character divides the target of an
instruction from its data.

* `read`: the tree that a text says, if the reader accepts it.
-/

namespace InstallerKit.Markup

/-- The white space characters of markup. -/
def isSpace (c : Char) : Bool :=
  c = ' ' || c = '\n' || c = '\r' || c = '\t'

/-- Whether a character cannot be part of a name. -/
def isMark (c : Char) : Bool :=
  isSpace c || c = '<' || c = '>' || c = '/' || c = '=' || c = '&' || c = '"' || c = '\'' ||
    c = '!' || c = '?'

namespace Reader

/-- A part of a document that goes on up to the first occurrence of its end. -/
inductive Section
  | comment
  | cdata
  /-- An instruction; the declaration looks like one, but only at the very start. -/
  | instruction (first : Bool)
  deriving DecidableEq, Repr

/-- What ends a section, without the `>` after it. -/
def Section.stop : Section → List Char
  | comment => ['-', '-']
  | cdata => [']', ']']
  | instruction _ => ['?']

/-- Where the reader is in the text. -/
inductive Mode
  /-- Nothing has been read. -/
  | start
  | content
  /-- In a reference in the content. -/
  | reference (name : List Char)
  /-- After a `<`, which is the first character of all or not. -/
  | opened (first : Bool)
  /-- After a `<!` and some characters. -/
  | bang (word : List Char)
  | within (part : Section) (text : List Char)
  /-- In the name of a start tag. -/
  | startName (name : List Char)
  /-- After white space in a start tag. -/
  | between (tag : Tag)
  /-- After the value of an attribute. -/
  | afterValue (tag : Tag)
  | attributeName (tag : Tag) (name : List Char)
  /-- After the name of an attribute and white space. -/
  | afterName (tag : Tag) (name : List Char)
  /-- After the equals sign of an attribute. -/
  | beforeValue (tag : Tag) (name : List Char)
  | value (tag : Tag) (name : List Char) (quote : Char) (text : List Char)
  | valueReference (tag : Tag) (name : List Char) (quote : Char) (text word : List Char)
  /-- After the slash of the tag of an empty element. -/
  | slash (tag : Tag)
  | endName (name : List Char)
  /-- After the name of an end tag and white space. -/
  | afterEndName (name : List Char)
  deriving Repr

end Reader

/-- A reader between two characters. -/
structure Reader where
  draft : Draft
  mode : Reader.Mode
  deriving Repr

namespace Reader

/-- A reader that has read nothing. -/
def fresh : Reader := ⟨.empty, .start⟩

/-- The character with a code point. -/
def charOf (n : Nat) : Option Char :=
  if h : n.isValidChar then some (Char.ofNatAux n h) else none

/-- The number of some digits to a base. -/
def number (base : Nat) (isDigit : Char → Bool) (digits : List Char) : Option Nat :=
  if digits.isEmpty || !digits.all isDigit then none
  else some (digits.foldl (fun n c => n * base + Text.hexValue c) 0)

/-- What a reference stands for. -/
def resolve (name : List Char) : Option Char :=
  match name with
  | ['a', 'm', 'p'] => some '&'
  | ['l', 't'] => some '<'
  | ['g', 't'] => some '>'
  | ['q', 'u', 'o', 't'] => some '"'
  | ['a', 'p', 'o', 's'] => some '\''
  | '#' :: 'x' :: digits => (number 16 Text.isHexDigit digits).bind charOf
  | '#' :: digits => (number 10 Char.isDigit digits).bind charOf
  | _ => none

/-- A start tag comes to its end. -/
def open? (d : Draft) (t : Tag) (isEmpty : Bool) : Option Reader :=
  if d.hasRoom then some ⟨if isEmpty then d.addElement t [] else d.push t, .content⟩ else none

/-- An end tag comes to its end. -/
def close? (d : Draft) (name : List Char) : Option Reader :=
  match d.stack with
  | [] => none
  | f :: _ => if f.tag.name = .ofList name then some ⟨d.finish, .content⟩ else none

/-- A section comes to its end. -/
def section? (d : Draft) (part : Section) (text : List Char) : Option Reader :=
  match part with
  | .comment => some ⟨d.addAside (.comment (.ofList text)), .content⟩
  | .cdata => if d.stack.isEmpty then none else some ⟨d.write text, .content⟩
  | .instruction first =>
    let target := text.takeWhile fun c => !isSpace c
    let data := (text.dropWhile fun c => !isSpace c).drop 1
    if target.isEmpty then none
    else if first && target = ['x', 'm', 'l'] then
      some ⟨{ d with declaration := some (.ofList data) }, .content⟩
    else some ⟨d.addAside (.instruction (.ofList target) (.ofList data)), .content⟩

/-- A character of the content. -/
def plain (d : Draft) (c : Char) : Option Reader :=
  if d.stack.isEmpty then
    if isSpace c then some ⟨d, .content⟩ else none
  else if c = '&' then some ⟨d, .reference []⟩
  else some ⟨d.write [c], .content⟩

/-- A character after a `<`. -/
def afterOpening (d : Draft) (first : Bool) (c : Char) : Option Reader :=
  if c = '/' then some ⟨d, .endName []⟩
  else if c = '!' then some ⟨d, .bang []⟩
  else if c = '?' then some ⟨d, .within (.instruction first) []⟩
  else if isMark c then none
  else some ⟨d, .startName [c]⟩

/-- A character after a `<!` and a word. -/
def afterBang (d : Draft) (word : List Char) (c : Char) : Option Reader :=
  let w := word ++ [c]
  if w = "--".toList then some ⟨d, .within .comment []⟩
  else if w = "[CDATA[".toList then some ⟨d, .within .cdata []⟩
  else if w.isPrefixOf "--".toList || w.isPrefixOf "[CDATA[".toList then some ⟨d, .bang w⟩
  else none

/-- A character in a start tag, where an attribute may start or not. -/
def inTag (d : Draft) (t : Tag) (mayStart : Bool) (c : Char) : Option Reader :=
  if isSpace c then some ⟨d, .between t⟩
  else if c = '>' then open? d t false
  else if c = '/' then some ⟨d, .slash t⟩
  else if !mayStart || isMark c then none
  else some ⟨d, .attributeName t [c]⟩

/-- Reads a character. -/
def step (r : Reader) (c : Char) : Option Reader :=
  let d := r.draft
  match r.mode with
  | .start => if c = '<' then some ⟨d, .opened true⟩ else plain d c
  | .content => if c = '<' then some ⟨d, .opened false⟩ else plain d c
  | .reference word =>
    if c = ';' then (resolve word).map fun x => ⟨d.write [x], .content⟩
    else some ⟨d, .reference (word ++ [c])⟩
  | .opened first => afterOpening d first c
  | .bang word => afterBang d word c
  | .within part text =>
    if c = '>' ∧ part.stop <:+ text
    then section? d part (text.take (text.length - part.stop.length))
    else some ⟨d, .within part (text ++ [c])⟩
  | .startName name =>
    if isMark c then inTag d ⟨.ofList name, []⟩ false c else some ⟨d, .startName (name ++ [c])⟩
  | .between t => inTag d t true c
  | .afterValue t => inTag d t false c
  | .attributeName t name =>
    if c = '=' then some ⟨d, .beforeValue t name⟩
    else if isSpace c then some ⟨d, .afterName t name⟩
    else if isMark c then none
    else some ⟨d, .attributeName t (name ++ [c])⟩
  | .afterName t name =>
    if c = '=' then some ⟨d, .beforeValue t name⟩
    else if isSpace c then some ⟨d, .afterName t name⟩
    else none
  | .beforeValue t name =>
    if c = '"' ∨ c = '\'' then some ⟨d, .value t name c []⟩
    else if isSpace c then some ⟨d, .beforeValue t name⟩
    else none
  | .value t name quote text =>
    if c = quote then some ⟨d, .afterValue (t.add (.ofList name) (.ofList text))⟩
    else if c = '<' then none
    else if c = '&' then some ⟨d, .valueReference t name quote text []⟩
    else some ⟨d, .value t name quote (text ++ [c])⟩
  | .valueReference t name quote text word =>
    if c = ';' then (resolve word).map fun x => ⟨d, .value t name quote (text ++ [x])⟩
    else some ⟨d, .valueReference t name quote text (word ++ [c])⟩
  | .slash t => if c = '>' then open? d t true else none
  | .endName name =>
    if c = '>' then close? d name
    else if isSpace c then some ⟨d, .afterEndName name⟩
    else if isMark c then none
    else some ⟨d, .endName (name ++ [c])⟩
  | .afterEndName name =>
    if c = '>' then close? d name
    else if isSpace c then some ⟨d, .afterEndName name⟩
    else none

/-- Reads some characters. -/
def feed : Reader → List Char → Option Reader
  | r, [] => some r
  | r, c :: cs => (r.step c).bind fun r => r.feed cs

/-- The tree of what has been read, between two parts of the top level. -/
def tree? (r : Reader) : Option Tree :=
  match r.mode with
  | .start | .content => r.draft.tree?
  | _ => none

end Reader

/-- The tree that a text says. -/
def read (text : List Char) : Option Tree :=
  (Reader.fresh.feed text).bind Reader.tree?

end InstallerKit.Markup
