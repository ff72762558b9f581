import InstallerKit.Text.Word

/-!
# Names in markup

A name is a local name, or two of them with a colon between. A local name starts
with an ASCII letter or the low line and goes on with word characters, full
stops and hyphens. One line feed may follow the whole.
-/

namespace InstallerKit.Markup

/-- The characters that a local name starts with. -/
def isNameStart (c : Char) : Bool :=
  c.isAlpha || c == '_'

/-- The characters that a local name goes on with. -/
def isNamePart (c : Char) : Bool :=
  Text.isWord c || c == '.' || c == '-'

def isLocalName : List Char → Bool
  | [] => false
  | c :: cs => isNameStart c && cs.all isNamePart

/-- A local name, or two of them with a colon between. -/
def isQualifiedName (cs : List Char) : Bool :=
  isLocalName (cs.takeWhile (· ≠ ':')) &&
    match cs.dropWhile (· ≠ ':') with
    | [] => true
    | _ :: rest => isLocalName rest

/-- Whether a text is accepted as a name. -/
def isName (cs : List Char) : Bool :=
  isQualifiedName cs || (cs.getLast? == some '\n' && isQualifiedName cs.dropLast)

end InstallerKit.Markup
