import InstallerKit.Text.Blank
import InstallerKit.Text.Case
import InstallerKit.Text.Digit
import InstallerKit.Text.Hex
import InstallerKit.Text.Pieces

/-!
# Colours

A colour is named by a word, in any case: a name that may end in the number of a shade,
a number of a palette, or three components, in hexadecimal digits or as numbers. It is
known by its word in lower case.

What has the form of three numbers is read as such, and reading a number can fail.
-/

namespace InstallerKit.Console

/-- Why something is no style. -/
inductive StyleError
  /-- It has no meaning as a style. -/
  | unknown
  /-- A component of a colour is empty. -/
  | noNumber
  /-- A component of a colour has too many digits. -/
  | longNumber (digits : Nat)
  deriving DecidableEq, Repr

def StyleError.message : StyleError → String
  | unknown => "unknown style"
  | noNumber => "invalid literal for int() with base 10: ''"
  | longNumber digits => Text.tooManyDigits digits

namespace Colour

/-- The colours with names, each with its shades. -/
def shades : List (String × List String) :=
  [("black", [""]), ("red", ["", "1", "3"]), ("green", ["", "1", "3", "4"]),
   ("yellow", ["", "1", "2", "3", "4"]), ("blue", ["", "1", "3"]), ("magenta", ["", "1", "2", "3"]),
   ("cyan", ["", "1", "2", "3"]), ("white", [""]), ("bright_black", [""]), ("bright_red", [""]),
   ("bright_green", [""]), ("bright_yellow", [""]), ("bright_blue", [""]), ("bright_magenta", [""]),
   ("bright_cyan", [""]), ("bright_white", [""]),
   ("grey", ["0", "3", "7", "11", "15", "19", "23", "27", "30", "35", "37", "39", "42", "46", "50",
     "53", "54", "58", "62", "63", "66", "69", "70", "74", "78", "82", "84", "85", "89", "93",
     "100"]),
   ("gray", ["0", "3", "7", "11", "15", "19", "23", "27", "30", "35", "37", "39", "42", "46", "50",
     "53", "54", "58", "62", "63", "66", "69", "70", "74", "78", "82", "84", "85", "89", "93",
     "100"]), ("navy_blue", [""]), ("dark_blue", [""]), ("dark_green", [""]),
   ("deep_sky_blue", ["1", "2", "3", "4"]), ("dodger_blue", ["1", "2", "3"]),
   ("spring_green", ["1", "2", "3", "4"]), ("turquoise", ["2", "4"]), ("dark_cyan", [""]),
   ("light_sea_green", [""]), ("dark_turquoise", [""]), ("medium_spring_green", [""]),
   ("dark_red", [""]), ("deep_pink", ["1", "2", "3", "4"]), ("purple", ["", "3", "4"]),
   ("blue_violet", [""]), ("orange", ["1", "3", "4"]), ("medium_purple", ["", "1", "2", "3", "4"]),
   ("slate_blue", ["1", "3"]), ("royal_blue", ["1"]), ("chartreuse", ["1", "2", "3", "4"]),
   ("dark_sea_green", ["", "1", "2", "3", "4"]), ("pale_turquoise", ["1", "4"]),
   ("steel_blue", ["", "1", "3"]), ("cornflower_blue", [""]), ("cadet_blue", [""]),
   ("sky_blue", ["1", "2", "3"]), ("pale_green", ["1", "3"]), ("sea_green", ["1", "2", "3"]),
   ("aquamarine", ["1", "3"]), ("medium_turquoise", [""]), ("dark_slate_gray", ["1", "2", "3"]),
   ("dark_magenta", [""]), ("dark_violet", [""]), ("light_pink", ["1", "3", "4"]),
   ("plum", ["1", "2", "3", "4"]), ("wheat", ["1", "4"]), ("light_slate_grey", [""]),
   ("light_slate_gray", [""]), ("light_slate_blue", [""]), ("dark_olive_green", ["1", "2", "3"]),
   ("light_sky_blue", ["1", "3"]), ("light_green", [""]), ("medium_violet_red", [""]),
   ("dark_orange", ["", "3"]), ("indian_red", ["", "1"]), ("hot_pink", ["", "2", "3"]),
   ("medium_orchid", ["", "1", "3"]), ("dark_goldenrod", [""]), ("light_salmon", ["1", "3"]),
   ("rosy_brown", [""]), ("gold", ["1", "3"]), ("dark_khaki", [""]), ("navajo_white", ["1", "3"]),
   ("light_steel_blue", ["", "1", "3"]), ("light_cyan", ["1", "3"]), ("green_yellow", [""]),
   ("orchid", ["", "1", "2"]), ("pink", ["1", "3"]), ("violet", [""]),
   ("light_goldenrod", ["1", "2", "3"]), ("tan", [""]), ("misty_rose", ["1", "3"]),
   ("thistle", ["1", "3"]), ("khaki", ["1", "3"]), ("light_yellow", ["3"]), ("honeydew", ["2"]),
   ("orange_red", ["1"]), ("salmon", ["1"]), ("light_coral", [""]), ("pale_violet_red", ["1"]),
   ("sandy_brown", [""]), ("cornsilk", ["1"])]

/-- Whether a word is the name of a colour. -/
def isName (word : String) : Bool :=
  word = "default" || shades.any fun (name, numbers) => numbers.any fun n => name ++ n = word

/-- What a word has between its beginning and a closing parenthesis. -/
def within? (beginning : String) (word : List Char) : Option (List Char) :=
  let rest := word.drop beginning.length
  if beginning.toList.isPrefixOf word && rest.getLast? = some ')' then some rest.dropLast else none

/-- The greatest number of a palette or of a component. -/
def greatest : Nat := 255

/-- Whether a word is the number of a colour. -/
def isNumber (word : List Char) : Bool :=
  match within? "color(" word with
  | some ds => ds ≠ [] && ds.length ≤ 3 && ds.all Char.isDigit &&
      decide (Text.numeralValue ds ≤ greatest)
  | none => false

/-- Whether a word has three components in hexadecimal digits. -/
def isHex : List Char → Bool
  | '#' :: ds => ds.length = 6 && ds.all Text.isHexDigit
  | _ => false

/-- A component of a colour. -/
def readComponent (ds : List Char) : Except StyleError Nat :=
  if ds = [] then .error .noNumber
  else if Text.maxDigits < ds.length then .error (.longNumber ds.length)
  else .ok (Text.numeralValue ds)

/-- Checks the components of a colour as numbers, with commas between. -/
def checkComponents (cs : List Char) : Except StyleError Unit := do
  if cs = [] || !cs.all fun c => c = ',' || Text.isDigit c then throw .unknown
  let parts := Text.pieces ',' cs
  if parts.length ≠ 3 then throw .unknown
  let numbers ← parts.mapM readComponent
  if numbers.any (greatest < ·) then throw .unknown

/-- The colour that a word stands for. -/
def read (word : List Char) : Except StyleError (List Char) := do
  let word := Text.lower word
  if isName (.ofList word) || isHex word || isNumber word then return word
  match within? "rgb(" word with
  | some cs =>
    checkComponents cs
    return word
  | none => throw .unknown

end Colour

end InstallerKit.Console
