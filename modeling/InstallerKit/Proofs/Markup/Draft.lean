import InstallerKit.Markup.Call
import InstallerKit.Text.Blank

/-!
# Drafts of documents

What a document says is a `Tree`: a declaration, comments and instructions around
a root element, and in the root whatever has been put there. Character data has no
structure besides its characters, so it makes no difference to a tree in how many
pieces they were written.

A `Draft` is a tree that still grows. Calls on a sink say how it grows
(`Draft.call`): an element is started and ended, an attribute goes to the element
that was started last, and everything else goes to the innermost open element. Calls
in an order that makes no sense have no draft. This is what calls mean, without any
regard to how it is written.

* `described`: the tree that some calls describe.
-/

namespace InstallerKit.Markup

/-- The start of an element. -/
structure Tag where
  name : String
  /-- The names and values, in order. -/
  attributes : List (String × String)
  deriving DecidableEq, Repr

/-- The tag with one more attribute. -/
def Tag.add (t : Tag) (name value : String) : Tag :=
  { t with attributes := t.attributes ++ [(name, value)] }

/-- What may also stand outside of the root element. -/
inductive Aside
  | comment (text : String)
  | instruction (target data : String)
  deriving DecidableEq, Repr

/-- A part of the content of an element. -/
inductive Node
  | element (tag : Tag) (content : List Node)
  | aside (a : Aside)
  /-- A character of character data. -/
  | char (c : Char)
  deriving Repr

/-- What a document says. -/
structure Tree where
  /-- The text of the declaration. -/
  declaration : Option String
  prolog : List Aside
  /-- The start of the root element, and its content. -/
  root : Option (Tag × List Node)
  epilog : List Aside
  deriving Repr

/-- An element that is open. -/
structure Frame where
  tag : Tag
  /-- What is in it so far, the latest first. -/
  content : List Node
  deriving Repr

/-- A tree that still grows. -/
structure Draft where
  declaration : Option String
  /-- The latest first. -/
  prolog : List Aside
  root : Option (Tag × List Node)
  /-- The latest first. -/
  epilog : List Aside
  /-- The open elements, the innermost one first. -/
  stack : List Frame
  deriving Repr

namespace Draft

/-- The draft of which nothing is there. -/
def empty : Draft := ⟨none, [], none, [], []⟩

/-- Whether nothing has been put into the draft. -/
def isUntouched (d : Draft) : Bool :=
  d.declaration.isNone && d.prolog.isEmpty && d.root.isNone && d.epilog.isEmpty && d.stack.isEmpty

/-- Whether an element may start here: there is only one root. -/
def hasRoom (d : Draft) : Bool :=
  !d.stack.isEmpty || d.root.isNone

/-- Adds character data to the innermost open element. Outside of the root there
    is none. -/
def write (d : Draft) (cs : List Char) : Draft :=
  match d.stack with
  | [] => d
  | f :: rest => { d with stack := ⟨f.tag, cs.reverse.map .char ++ f.content⟩ :: rest }

def addAside (d : Draft) (a : Aside) : Draft :=
  match d.stack with
  | [] =>
    if d.root.isNone then { d with prolog := a :: d.prolog }
    else { d with epilog := a :: d.epilog }
  | f :: rest => { d with stack := ⟨f.tag, .aside a :: f.content⟩ :: rest }

/-- Adds a whole element. -/
def addElement (d : Draft) (t : Tag) (content : List Node) : Draft :=
  match d.stack with
  | [] => { d with root := some (t, content) }
  | f :: rest => { d with stack := ⟨f.tag, .element t content :: f.content⟩ :: rest }

/-- Starts an element. -/
def push (d : Draft) (t : Tag) : Draft :=
  { d with stack := ⟨t, []⟩ :: d.stack }

/-- Ends the innermost open element. -/
def finish (d : Draft) : Draft :=
  match d.stack with
  | [] => d
  | f :: rest => { d with stack := rest }.addElement f.tag f.content.reverse

/-- Ends as many open elements. -/
def finishes : Nat → Draft → Draft
  | 0, d => d
  | n + 1, d => d.finish.finishes n

/-- Ends all open elements. -/
def closeAll (d : Draft) : Draft :=
  d.finishes d.stack.length

/-- Adds an attribute to the element that was started last: the latest one in the
    innermost open element, or, if there is nothing in that one, itself. -/
def addAttribute (d : Draft) (name value : String) : Option Draft :=
  match d.stack with
  | [] => d.root.map fun (t, content) => { d with root := some (t.add name value, content) }
  | f :: rest =>
    match f.content with
    | [] => some { d with stack := ⟨f.tag.add name value, []⟩ :: rest }
    | .element t content :: ns =>
      some { d with stack := ⟨f.tag, .element (t.add name value) content :: ns⟩ :: rest }
    | _ => none

/-- Adds a text. Outside of the root it must be blank, and counts for nothing. -/
def addText (d : Draft) (text : String) : Option Draft :=
  if d.stack.isEmpty && !text.toList.all Text.isBlank then none else some (d.write text.toList)

/-! ### What the operations leave alone -/

/-- The names of the open elements. -/
def names (d : Draft) : List String :=
  d.stack.map (·.tag.name)

variable {d : Draft}

@[simp] theorem write_nil : d.write [] = d := by
  unfold write
  split
  · rfl
  · next h => simp [← h]

@[simp] theorem write_write (cs ds : List Char) : (d.write cs).write ds = d.write (cs ++ ds) := by
  unfold write
  cases h : d.stack <;> simp [h]

@[simp] theorem stack_write_eq_nil_iff {cs : List Char} :
    (d.write cs).stack = [] ↔ d.stack = [] := by
  unfold write
  split <;> simp_all

@[simp] theorem root_write (cs : List Char) : (d.write cs).root = d.root := by
  unfold write
  split <;> rfl

@[simp] theorem names_write (cs : List Char) : (d.write cs).names = d.names := by
  unfold write names
  split <;> simp_all

@[simp] theorem hasRoom_write (cs : List Char) : (d.write cs).hasRoom = d.hasRoom := by
  unfold hasRoom
  rw [root_write]
  congr 2
  exact Bool.eq_iff_iff.2 (by simp)

theorem write_of_stack_eq_nil (h : d.stack = []) (cs : List Char) : d.write cs = d := by
  rw [write, h]

@[simp] theorem stack_addAside_eq_nil_iff (a : Aside) :
    (d.addAside a).stack = [] ↔ d.stack = [] := by
  unfold addAside
  split
  · split <;> simp_all
  · simp_all

@[simp] theorem root_addAside (a : Aside) : (d.addAside a).root = d.root := by
  unfold addAside
  split
  · split <;> rfl
  · rfl

@[simp] theorem names_addAside (a : Aside) : (d.addAside a).names = d.names := by
  unfold addAside names
  split
  · split <;> simp_all
  · simp_all

@[simp] theorem names_addElement (t : Tag) (content : List Node) :
    (d.addElement t content).names = d.names := by
  unfold addElement names
  split <;> simp_all

theorem root_addElement (t : Tag) (content : List Node) :
    (d.addElement t content).root = if d.stack = [] then some (t, content) else d.root := by
  unfold addElement
  split <;> simp_all

@[simp] theorem names_push (t : Tag) : (d.push t).names = t.name :: d.names := rfl

@[simp] theorem root_push (t : Tag) : (d.push t).root = d.root := rfl

@[simp] theorem names_finish : d.finish.names = d.names.tail := by
  unfold finish
  split
  · next h => simp [names, h]
  · next h =>
    rw [names_addElement]
    simp [names, h]

/-- The root element is there as soon as it has been ended. -/
theorem isSome_root_finish {name : String} {names : List String} (h : d.names = name :: names) :
    d.finish.root.isSome = (d.root.isSome || names.isEmpty) := by
  unfold finish
  split
  · next hs => simp [Draft.names, hs] at h
  · next f rest hs =>
    rw [root_addElement]
    simp only [Draft.names, hs, List.map_cons, List.cons.injEq] at h
    cases rest <;> simp [← h.2]

theorem finish_push (t : Tag) : (d.push t).finish = d.addElement t [] := rfl

/-- An attribute goes to the element that has just been started. -/
theorem addAttribute_push (t : Tag) (name value : String) :
    (d.push t).addAttribute name value = some (d.push (t.add name value)) := rfl

/-- An attribute goes to the element that has just been added. -/
theorem addAttribute_addElement (t : Tag) (content : List Node) (name value : String) :
    (d.addElement t content).addAttribute name value =
      some (d.addElement (t.add name value) content) := by
  unfold addElement
  split
  · next h => simp [addAttribute, h]
  · rfl

theorem stack_eq_nil_iff_names : d.stack = [] ↔ d.names = [] :=
  List.map_eq_nil_iff.symm

end Draft

/-- The text of a declaration. -/
def declarationText (version encoding : String) : String :=
  "version=\"" ++ version ++ "\" encoding=\"" ++ encoding ++ "\""

/-- The name of the attribute that declares a namespace. -/
def namespaceName (label : Datum) : String :=
  if label.isNothing || label.display = "xmlns" then "xmlns" else "xmlns:" ++ label.display

namespace Draft

/-- What a call makes of a draft. -/
def call (d : Draft) : Call → Option Draft
  | .startDocument version encoding =>
    if d.isUntouched then some { d with declaration := some (declarationText version encoding) }
    else none
  | .endDocument => some d.closeAll
  | .startElement (.text name) => if d.hasRoom then some (d.push ⟨name, []⟩) else none
  | .startElement _ => none
  | .emptyElement (.text name) => if d.hasRoom then some (d.addElement ⟨name, []⟩ []) else none
  | .emptyElement _ => none
  | .endElement => if d.stack.isEmpty then none else some d.finish
  | .defaultNamespace uri => d.addAttribute "xmlns" uri.display
  | .declareNamespace label uri => d.addAttribute (namespaceName label) uri.display
  | .attribute (.text name) value => d.addAttribute name value.display
  | .attribute _ _ => none
  | .characters text => d.addText text
  | .characterSlice buffer start length => d.addText (buffer.sliceText start length)
  | .cdata text => if d.stack.isEmpty then none else some (d.write text.toList)
  | .comment text => some (d.addAside (.comment text))
  | .instruction target data => some (d.addAside (.instruction target (data.getD "")))
  | .flush => some d

/-- What some calls make of a draft. -/
def calls : Draft → List Call → Option Draft
  | d, [] => some d
  | d, c :: cs => (d.call c).bind fun d => d.calls cs

/-- The tree of a draft in which no element is open. -/
def tree? (d : Draft) : Option Tree :=
  if d.stack.isEmpty then some ⟨d.declaration, d.prolog.reverse, d.root, d.epilog.reverse⟩ else none

end Draft

/-- The tree that some calls describe. -/
def described (cs : List Call) : Option Tree :=
  (Draft.empty.calls cs).bind Draft.tree?

end InstallerKit.Markup
