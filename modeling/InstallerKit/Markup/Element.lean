import InstallerKit.Markup.Call
import InstallerKit.Table

/-!
# Elements

An element described as a whole: its name, its attributes, a text and its
children. Writing it is a sequence of calls. The text comes before the children,
and an element with neither is written as an empty one; an empty text is a text.
-/

namespace InstallerKit.Markup

/-- A tree of elements. -/
structure Element where
  name : String
  attributes : Table String
  /-- The text before the children. -/
  text : Option String
  children : List Element

namespace Element

/-- The calls that write the attributes of an element. -/
def attributeCalls (e : Element) : List Call :=
  e.attributes.entries.map fun (name, value) => .attribute name value

mutual

/-- The calls that write an element. -/
def calls : Element → List Call
  | ⟨name, attributes, none, []⟩ =>
    .emptyElement name :: attributeCalls ⟨name, attributes, none, []⟩
  | ⟨name, attributes, text, children⟩ =>
    .startElement name :: attributeCalls ⟨name, attributes, text, children⟩ ++
      text.toList.map .characters ++ callsAll children ++ [.endElement]

/-- The calls that write several elements. -/
def callsAll : List Element → List Call
  | [] => []
  | e :: rest => calls e ++ callsAll rest

end

/-- Several elements as they are shown: by their names. -/
def summary (es : List Element) : String :=
  "ElementProducer([" ++ ", ".intercalate (es.map name) ++ "])"

end Element

end InstallerKit.Markup
