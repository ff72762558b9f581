import InstallerKit.Datum

/-!
# Refusals of calls

Why a writer refuses a call: the call comes at the wrong place, or one of its
arguments cannot be written there. The layer that protects literal dollars refuses
an attribute's value that it cannot deal with; this is a *mismatch* of kinds, and
not about markup.
-/

namespace InstallerKit.Markup

/-- What a name is for. -/
inductive Role
  | element
  | attribute
  deriving DecidableEq, Repr

def Role.text : Role → String
  | .element => "element"
  | .attribute => "attribute"

/-- Where a character stands. -/
inductive Place
  | text
  | cdata
  | comment
  | instruction
  | attribute (name : String)
  deriving DecidableEq, Repr

def Place.description : Place → String
  | .text => "text content"
  | .cdata => "CDATA section"
  | .comment => "comment"
  | .instruction => "processing instruction"
  | .attribute name => "attribute '" ++ name ++ "'"

/-- Why a call is refused. -/
inductive Error
  /-- A declaration after something else has been written. -/
  | lateDeclaration
  /-- An end tag where no element is open. -/
  | unmatchedEnd
  /-- An element after the root element. -/
  | secondRoot (name : String)
  | badName (role : Role) (name : Datum)
  /-- An attribute while no start tag is open. -/
  | looseAttribute (name : Datum)
  | repeatedAttribute (name element : String)
  | badCharacter (c : Char) (place : Place)
  /-- Text where no element is open. -/
  | looseText
  | looseCdata
  /-- A comment that would not end where it is meant to. -/
  | badComment (text : String)
  | badTarget (target : String)
  /-- Data that would end the instruction. -/
  | badData
  /-- A value of a kind that has no members, where a dollar is looked for. -/
  | noMembers (kind : String)
  /-- A value with a dollar among its members that is no text. -/
  | noText (kind : String)
  deriving Repr

/-- Whether a call is refused for the kind of a value. -/
def Error.isMismatch : Error → Bool
  | .noMembers _ | .noText _ => true
  | _ => false

/-- The wording of a refusal. -/
def Error.message : Error → String
  | .lateDeclaration => "XML declaration must be the first item of the document."
  | .unmatchedEnd => "End element written without a matching start element."
  | .secondRoot name => "Cannot start element '" ++ name ++ "': the document already has a root."
  | .badName role name => "Invalid " ++ role.text ++ " name: " ++ name.literal
  | .looseAttribute name => "Attribute '" ++ name.display ++ "' written outside of a start tag."
  | .repeatedAttribute name element =>
    "Duplicate attribute '" ++ name ++ "' on element '" ++ element ++ "'."
  | .badCharacter c place =>
    "Character " ++ Text.quotedChar c ++ " is not allowed in XML " ++ place.description ++ "."
  | .looseText => "Text content written outside of the root element."
  | .looseCdata => "CDATA section written outside of the root element."
  | .badComment text =>
    "Comment text cannot contain '--' or end with '-': " ++ Text.quoted text
  | .badTarget target => "Invalid processing instruction target: " ++ Text.quoted target
  | .badData => "Processing instruction data cannot contain '?>'."
  | .noMembers kind => "argument of type '" ++ kind ++ "' is not iterable"
  | .noText kind => "expected string or bytes-like object, got '" ++ kind ++ "'"

end InstallerKit.Markup
