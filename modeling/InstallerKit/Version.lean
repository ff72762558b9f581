import InstallerKit.Text.Blank
import InstallerKit.Text.Digit
import InstallerKit.Text.Quoted

/-!
# Dotted versions

A version is read from a text as the longest run of numerals with single full
stops between them that the text starts with; what follows is kept but has no
meaning. Versions are compared component by component, a missing component
counting as zero, so that different lists of components may be equal versions:
`trimmed` is the same list for all of them.
-/

namespace InstallerKit

/-- A version. -/
structure Version where
  components : List Nat
  /-- The text it was read from, without surrounding blanks. -/
  raw : String
  deriving DecidableEq, Repr

namespace Version

/-- Why a text is no version. -/
inductive Error
  | malformed (text : String)
  /-- A component of too many digits. -/
  | tooLong (digits : Nat)
  deriving DecidableEq, Repr

def Error.message : Error → String
  | .malformed text => "Invalid version string: " ++ Text.quoted text
  | .tooLong digits => Text.tooManyDigits digits

/-- The numerals that a text starts with, with single full stops between them;
    none unless it starts with a digit. -/
def numerals : List Char → List (List Char)
  | [] => []
  | [c] => if Text.isDigit c then [[c]] else []
  | c :: d :: rest =>
    if !Text.isDigit c then []
    else if d = '.' then
      match numerals rest with
      | [] => [[c]]
      | n :: ns => [c] :: n :: ns
    else
      match numerals (d :: rest) with
      | [] => [[c]]
      | n :: ns => (c :: n) :: ns

/-- The number of a numeral. -/
def component (digits : List Char) : Except Error Nat :=
  if Text.maxDigits < digits.length then .error (.tooLong digits.length)
  else .ok (Text.numeralValue digits)

/-- Reads a version. -/
def parse (text : String) : Except Error Version :=
  let raw := Text.strip text.toList
  match numerals raw with
  | [] => .error (.malformed text)
  | ns => do return ⟨← ns.mapM component, .ofList raw⟩

/-- A version reads as the text that it was read from. -/
instance : ToString Version := ⟨raw⟩

/-- At least `width` components. -/
def padded (v : Version) (width : Nat) : List Nat :=
  v.components ++ List.replicate (width - v.components.length) 0

/-- The number of components at which two versions are compared. -/
def width (a b : Version) : Nat :=
  max a.components.length b.components.length

/-- Whether two versions are equal. -/
def same (a b : Version) : Bool :=
  a.padded (width a b) == b.padded (width a b)

/-- Whether a version is older than another one. -/
def older (a b : Version) : Bool :=
  decide (a.padded (width a b) < b.padded (width a b))

/-- Whether a version is another one or newer. -/
def atLeast (a b : Version) : Bool :=
  !a.older b

/-- Whether a version is another one or older. -/
def atMost (a b : Version) : Bool :=
  a.older b || a.same b

/-- Whether a version is newer than another one. -/
def newer (a b : Version) : Bool :=
  !a.older b && !a.same b

/-- Whether two versions are not equal. -/
def differs (a b : Version) : Bool :=
  !a.same b

/-- The components without the zeros at their end. -/
def trimmed (v : Version) : List Nat :=
  (v.components.reverse.dropWhile (· = 0)).reverse

/-- The hash of a version, where `hash` is that of a list of components. -/
def hashBy {α : Type} (hash : List Nat → α) (v : Version) : α :=
  hash v.trimmed

/-- The first version with the optional features. -/
def featureVersion : Version := ⟨[3, 6], "3.6"⟩

/-- Whether a version has the optional features. -/
def hasFeatures (v : Version) : Bool :=
  v.atLeast featureVersion

/-- What is logged of a version that has them. -/
def announcement (v : Version) : String :=
  "WiX " ++ v.raw ++ " detected. Enabling WiX 3.6+ features."

end Version

end InstallerKit
