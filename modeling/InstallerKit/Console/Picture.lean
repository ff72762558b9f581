import InstallerKit.Console.PictureNames
import InstallerKit.Text.Blank
import InstallerKit.Text.Case
import InstallerKit.Text.Pieces

/-!
# Pictures in console messages

A name between two colons, without blanks, asks for a picture. It may end in a variant:
the picture in text style or in colour, each by a selector after it. A name of no
picture is shown as it is, along with both of its colons.
-/

namespace InstallerKit.Console

namespace Picture

/-- Pairs of neighbours. -/
def paired {α : Type} : List α → List (α × α)
  | a :: b :: rest => (a, b) :: paired rest
  | _ => []

/-- The pictures by their names. -/
def table : List (List Char × List Char) :=
  pictureLines.flatMap fun line => paired (Text.pieces ' ' line.toList)

/-- What is between two colons. -/
structure Code where
  name : List Char
  /-- The selector of the variant. -/
  selector : List Char
  deriving DecidableEq, Repr

/-- A text without its ending, if it has that ending. -/
def stem? (ending : String) (cs : List Char) : Option (List Char) :=
  if ending.toList.isSuffixOf cs then some (cs.take (cs.length - ending.length)) else none

/-- The code that the text between two colons is. -/
def Code.read (body : List Char) : Code :=
  match stem? "-text" body, stem? "-emoji" body with
  | some name, _ => ⟨name, ['\ufe0e']⟩
  | none, some name => ⟨name, ['\ufe0f']⟩
  | none, none => ⟨body, []⟩

/-- The picture that a code asks for. -/
def Code.picture? (c : Code) : Option (List Char) :=
  (table.lookup (Text.lower c.name)).map (· ++ c.selector)

/-- The text before the next colon, unless a blank comes first. -/
def body? (cs : List Char) : Option (List Char) :=
  let body := cs.takeWhile fun c => c ≠ ':' && !Text.isBlank c
  if (cs.drop body.length).head? = some ':' then some body else none

/-- A text with pictures in the place of their codes, after the first `skip` characters,
    which have been dealt with. -/
def replaceFrom : (skip : Nat) → List Char → List Char
  | _, [] => []
  | skip + 1, _ :: cs => replaceFrom skip cs
  | 0, c :: cs =>
    match if c = ':' then body? cs else none with
    | some body =>
      (Code.read body).picture?.getD (':' :: body ++ [':']) ++ replaceFrom (body.length + 1) cs
    | none => c :: replaceFrom 0 cs

/-- A text with pictures in the place of their codes. -/
def replace (cs : List Char) : List Char :=
  replaceFrom 0 cs

end Picture

end InstallerKit.Console
