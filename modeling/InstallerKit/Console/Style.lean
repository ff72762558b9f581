import InstallerKit.Console.Colour

/-!
# Styles

A style is described by words: attributes, which may be denied, a colour, another one
for the background, and the address of a link. Two descriptions that mean the same have
the same *normal form*; what describes no style is normalised as a plain name.

Styles are not shown where there are no colours, but their descriptions are compared.
-/

namespace InstallerKit.Console

/-- An attribute of a style. -/
inductive Attribute
  | bold
  | dim
  | italic
  | underline
  | blink
  | blink2
  | reverse
  | conceal
  | strike
  | underline2
  | frame
  | encircle
  | overline
  deriving DecidableEq, Repr

namespace Attribute

/-- The attributes in the order in which a normal form has them. -/
def all : List Attribute :=
  [bold, dim, italic, underline, blink, blink2, reverse, conceal, strike, underline2, frame,
    encircle, overline]

def label : Attribute → String
  | bold => "bold"
  | dim => "dim"
  | italic => "italic"
  | underline => "underline"
  | blink => "blink"
  | blink2 => "blink2"
  | reverse => "reverse"
  | conceal => "conceal"
  | strike => "strike"
  | underline2 => "underline2"
  | frame => "frame"
  | encircle => "encircle"
  | overline => "overline"

/-- The abbreviation of an attribute, if it has one. -/
def short? : Attribute → Option String
  | bold => some "b"
  | dim => some "d"
  | italic => some "i"
  | underline => some "u"
  | reverse => some "r"
  | conceal => some "c"
  | strike => some "s"
  | underline2 => some "uu"
  | overline => some "o"
  | _ => none

/-- The attribute that a word stands for. -/
def ofWord? (word : List Char) : Option Attribute :=
  all.find? fun a => a.label = String.ofList word || a.short? = some (String.ofList word)

end Attribute

/-- A style. -/
structure Style where
  /-- The attributes, the latest first, and whether each is on. -/
  attributes : List (Attribute × Bool)
  colour : Option (List Char)
  background : Option (List Char)
  link : Option (List Char)
  deriving DecidableEq, Repr

namespace Style

/-- The style that changes nothing. -/
def plain : Style := ⟨[], none, none, none⟩

/-- The style with some words added to its description. -/
def readWords (s : Style) : List (List Char) → Except StyleError Style
  | [] => .ok s
  | word :: rest =>
    let key := Text.lower word
    if key = "on".toList then
      match rest with
      | [] => .error .unknown
      | colour :: rest => do
        let colour ← Colour.read colour
        readWords { s with background := some colour } rest
    else if key = "not".toList then
      match rest with
      | [] => .error .unknown
      | name :: rest =>
        match Attribute.ofWord? name with
        | none => .error .unknown
        | some a => readWords { s with attributes := (a, false) :: s.attributes } rest
    else if key = "link".toList then
      match rest with
      | [] => .error .unknown
      | address :: rest => readWords { s with link := some address } rest
    else
      match Attribute.ofWord? key with
      | some a => readWords { s with attributes := (a, true) :: s.attributes } rest
      | none => do
        let colour ← Colour.read key
        readWords { s with colour := some colour } rest

/-- The style that a description stands for. -/
def read (description : List Char) : Except StyleError Style :=
  if Text.strip description = "none".toList then .ok plain
  else plain.readWords ((description.splitOnP Text.isBlank).filter (· ≠ []))

/-- The words of an attribute, if the style says something about it. -/
def attributeWords (s : Style) (a : Attribute) : List (List Char) :=
  match s.attributes.lookup a with
  | none => []
  | some true => [a.label.toList]
  | some false => ["not".toList, a.label.toList]

/-- The words of a normal form. -/
def words (s : Style) : List (List Char) :=
  Attribute.all.flatMap s.attributeWords ++ s.colour.toList ++
    (s.background.map fun c => ["on".toList, c]).getD [] ++
    (s.link.map fun l => ["link".toList, l]).getD []

/-- The normal form of a style. -/
def text (s : Style) : List Char :=
  if s.words = [] then "none".toList else [' '].intercalate s.words

/-- The normal form of a description. -/
def normalForm (description : List Char) : Except StyleError (List Char) :=
  match read description with
  | .ok s => .ok s.text
  | .error .unknown => .ok (Text.lower (Text.strip description))
  | .error e => .error e

end Style

end InstallerKit.Console
