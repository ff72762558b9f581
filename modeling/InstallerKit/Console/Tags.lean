import InstallerKit.Console.Picture
import InstallerKit.Console.Style
import InstallerKit.Console.Text
import InstallerKit.Literal
import InstallerKit.Text.Quoted
import InstallerKit.Text.Word

/-!
# Tags in console messages

Certain messages are shown with *tags*: a bracket, a lower-case letter or one of
`#`, `/`, `@`, and everything up to the closing bracket, as long as no other
bracket opens in between. A tag is not shown. It has a name, and after an equals sign
it may have parameters. A tag whose name starts with a slash closes an earlier one: by
name, or the latest one if there is no other name. It is an error to close what is not
open. Names are compared by the styles that they describe.

What is between a tag and its end has the style of its name and parameters. If the name
starts with `@`, it has an action instead, whose parameters have to be a literal, perhaps
after the name of what acts.

Backslashes before a tag are halved, and an odd one makes the tag show as it is. What is
not in tags may ask for pictures.
-/

namespace InstallerKit.Console

/-- A tag. -/
structure Tag where
  name : List Char
  parameters : Option (List Char)
  deriving DecidableEq, Repr

/-- Why a message with tags cannot be shown. -/
inductive TagError
  /-- The closing tag has a name, in normal form, that is not open. -/
  | unmatched (tag : Tag) (name : List Char) (position : Nat)
  /-- Nothing is open. -/
  | nothingOpen (position : Nat)
  /-- The parameters of an action are no literal, or what is left of them without the
      name of what acts. -/
  | badAction (parameters given : List Char) (e : Literal.Error)
  /-- A style that cannot be read. -/
  | badStyle (e : StyleError)
  deriving DecidableEq, Repr

namespace Tag

/-- The tag of a text between brackets. -/
def ofBody (body : List Char) : Tag :=
  let name := body.takeWhile (· ≠ '=')
  ⟨name, if name.length < body.length then some (body.drop (name.length + 1)) else none⟩

/-- A tag between its brackets. -/
def markup (t : Tag) : List Char :=
  '[' :: t.name ++ (t.parameters.map ('=' :: ·)).getD [] ++ [']']

/-- The description of the style that a tag asks for. -/
def description (t : Tag) : List Char :=
  t.name ++ (t.parameters.map (' ' :: ·)).getD []

/-- Whether a tag asks for an action. -/
def isAction (t : Tag) : Bool :=
  t.name.head? = some '@'

/-- The literal in the parameters of an action. After the name of what acts there may be
    one in parentheses. -/
def literalOf (parameters : List Char) : List Char :=
  let rest := parameters.dropWhile fun c => Text.isWord c || c = '.'
  if rest = [] then "()".toList
  else if rest.head? = some '(' && rest.getLast? = some ')' && !rest.contains '\n' then rest
  else parameters

/-- Checks a tag when it is closed. -/
def check (t : Tag) : Except TagError Unit :=
  match t.parameters with
  | some given@(_ :: _) =>
    if t.isAction then
      let parameters := literalOf (Text.strip given)
      (Literal.check (parameters.dropWhile fun c => c = ' ' || c = '\t')).mapError
        (.badAction parameters given)
    else .ok ()
  | _ => .ok ()

end Tag

def TagError.message : TagError → String
  | unmatched tag _ position =>
    "closing tag '" ++ .ofList tag.markup ++ "' at position " ++ toString position ++
      " doesn't match any open tag"
  | nothingOpen position =>
    "closing tag '[/]' at position " ++ toString position ++ " has nothing to close"
  | badAction parameters given e =>
    let literal := match e with
      | .form _ _ => Text.quoted (.ofList parameters) ++ " in "
      | _ => ""
    "error parsing " ++ literal ++ Text.quoted (.ofList given) ++ "; " ++ e.message
  | badStyle e => e.message

/-- A part of a text that has a style. -/
structure Span where
  start : Nat
  stop : Nat
  description : List Char
  deriving DecidableEq, Repr

namespace Tags

/-- The characters that a tag may start with. -/
def isOpening (c : Char) : Bool :=
  c.isLower || c ∈ ['#', '/', '@']

/-- The text of the tag at the start of `cs`, after its bracket. -/
def body? : List Char → Option (List Char)
  | c :: cs =>
    let inner := cs.takeWhile fun d => d ≠ '[' ∧ d ≠ ']'
    if isOpening c ∧ (cs.drop inner.length).head? = some ']' then some (c :: inner) else none
  | [] => none

/-- The number of backslashes before the tag at the start of `cs`, and its text. -/
def tag? (cs : List Char) : Option (Nat × List Char) :=
  let slashes := cs.takeWhile (· = '\\')
  match cs.drop slashes.length with
  | '[' :: rest => (body? rest).map (slashes.length, ·)
  | _ => none

/-- A part of a message. -/
inductive Piece
  /-- A text between two tags. -/
  | run (text : List Char)
  /-- A text in the place of backslashes, or of a tag after a backslash. -/
  | fixed (text : List Char)
  | tag (position : Nat) (t : Tag)
  deriving DecidableEq, Repr

/-- A character before some pieces. -/
def before (c : Char) : List Piece → List Piece
  | .run text :: rest => .run (c :: text) :: rest
  | pieces => .run [c] :: pieces

/-- The pieces of a message from a position on, after the first `skip`
    characters, which belong to the piece before. -/
def piecesFrom (position skip : Nat) : List Char → List Piece
  | [] => []
  | c :: cs =>
    match skip with
    | skip + 1 => piecesFrom (position + 1) skip cs
    | 0 =>
      match tag? (c :: cs) with
      | some (slashes, body) =>
        let rest := piecesFrom (position + 1) (slashes + body.length + 1) cs
        .fixed (.replicate (slashes / 2) '\\') ::
          if slashes % 2 = 1 then .fixed ('[' :: body ++ [']']) :: rest
          else .tag (position + slashes) (.ofBody body) :: rest
      | none =>
        if c = '\\' ∧ cs.head? = some '[' then before '[' (piecesFrom (position + 1) 1 cs)
        else before c (piecesFrom (position + 1) 0 cs)

/-- A name in the normal form of the style that it describes. -/
def normalName (name : List Char) : Except TagError (List Char) :=
  (Style.normalForm name).mapError .badStyle

/-- What is shown of a message. -/
structure Shown where
  text : List Char
  /-- The styles in the order in which they were closed. -/
  spans : List Span
  deriving DecidableEq, Repr

/-- The style of a tag that was opened at `start`. An action is no style. -/
def spanOf (start stop : Nat) (t : Tag) : List Span :=
  if t.isAction then [] else [⟨start, stop, t.description⟩]

/-- What is shown of some pieces behind `length` characters, while tags are open, the
    latest one first, each with the position where it was opened. -/
def render (opened : List (Nat × Tag)) (length : Nat) : List Piece → Except TagError Shown
  | [] => .ok ⟨[], opened.flatMap fun (start, t) => spanOf start length t⟩
  | .run text :: rest | .fixed text :: rest => do
    let text := (Picture.replace text).filter fun c => !isHidden c
    let shown ← render opened (length + text.length) rest
    return { shown with text := text ++ shown.text }
  | .tag position t :: rest => do
    let close (start : Nat) (u : Tag) : Except TagError Shown := do
      u.check
      let shown ← render (opened.erase (start, u)) length rest
      return { shown with spans := spanOf start length u ++ shown.spans }
    match t.name with
    | '/' :: name =>
      if Text.strip name = [] then
        match opened with
        | [] => throw (.nothingOpen position)
        | (start, u) :: _ => close start u
      else
        let name ← normalName (Text.strip name)
        match opened.find? fun (_, u) => u.name = name with
        | none => throw (.unmatched t name position)
        | some (start, u) => close start u
    | name =>
      let name ← normalName name
      render ((length, { t with name }) :: opened) length rest

/-- The styles that count when a text is shown: in a text of several lines, those of
    something on a line; in one with tabs, those of something. -/
def counting (shown : Shown) : List Span :=
  let part (s : Span) : List Char := (shown.text.take s.stop).drop s.start
  if shown.text.contains '\n' then shown.spans.filter fun s => (part s).any (· ≠ '\n')
  else if shown.text.contains '\t' then shown.spans.filter fun s => part s ≠ []
  else shown.spans

/-- Checks that the styles of a text can be read, in the order of the text. -/
def checkStyles (shown : Shown) : Except TagError Unit := do
  let spans := (counting shown).reverse.mergeSort fun a b => decide (a.start ≤ b.start)
  for s in spans do
    match Style.read s.description with
    | .ok _ | .error .unknown => pure ()
    | .error e => throw (.badStyle e)

end Tags

/-- What is shown of a message with tags. -/
def showTags (message : String) : Except TagError String := do
  let shown ← Tags.render [] 0 (Tags.piecesFrom 0 0 message.toList)
  Tags.checkStyles shown
  return .ofList shown.text

end InstallerKit.Console
