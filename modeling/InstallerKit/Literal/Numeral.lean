import InstallerKit.Literal.Error
import InstallerKit.Text.Hex

/-!
# Numerals

A numeral is a whole number in one of four bases, a decimal with a point or an exponent,
or an imaginary number. A low line may stand between two digits. What follows a numeral
must not look like a part of it, but may be one of some words.
-/

namespace InstallerKit.Literal

/-- A numeral as it was read. -/
structure Numeral where
  imaginary : Bool
  base : Nat
  /-- The digits of a whole number; none for another numeral. -/
  digits : List Char
  deriving DecidableEq, Repr

namespace Numeral

/-- The least whole number that is not near any floating one. -/
def hugeBound : Nat := Nat.pow 2 1024 - Nat.pow 2 970

/-- Whether a numeral is too great to become a floating number. -/
def isHuge (n : Numeral) : Bool :=
  hugeBound ≤ n.digits.foldl (fun m d => n.base * m + Text.hexValue d) 0

/-- Whether a numeral has more decimal digits than are read. -/
def isLong (n : Numeral) : Bool :=
  n.base = 10 && Text.maxDigits < n.digits.length

/-- Digits, in groups with a low line between two of them. The first group may be
    empty. -/
def digitGroups (isDigit : Char → Bool) (kind : String) :
    (fuel : Nat) → List Char → Except Complaint (List Char × List Char)
  | 0, cs => .ok ([], cs)
  | fuel + 1, cs =>
    let ds := cs.takeWhile isDigit
    match cs.drop ds.length with
    | '_' :: rest =>
      if rest.head?.any isDigit then
        (digitGroups isDigit kind fuel rest).map fun (more, rest) => (ds ++ more, rest)
      else .error (.badNumeral kind)
    | rest => .ok (ds, rest)

/-- Decimal digits in groups. -/
def decimalGroups (cs : List Char) : Except Complaint (List Char × List Char) :=
  digitGroups Char.isDigit "decimal" cs.length cs

/-- Whether a word may follow a numeral without a space. Of the short ones, only the
    first two letters count. -/
def isFollower (cs : List Char) : Bool :=
  let word := cs.takeWhile fun c => c.isAlphanum || c = '_' || 0x80 ≤ c.toNat
  String.ofList word ∈ ["and", "else", "for", "or", "not"] ||
    String.ofList (word.take 2) ∈ ["if", "in", "is"]

/-- Checks what follows a numeral. -/
def checkEnd (kind : String) (cs : List Char) : Except Complaint Unit :=
  if cs.head?.any (fun c => c.isAlphanum || c = '_' || 0x80 ≤ c.toNat) && !isFollower cs then
    .error (.badNumeral kind)
  else .ok ()

/-- The rest of a numeral in another base, after the letter that names the base. -/
def readBase (base : Nat) (isDigit : Char → Bool) (kind : String) (cs : List Char) :
    Except Complaint (Numeral × List Char) := do
  let start := if cs.head? = some '_' then cs.drop 1 else cs
  let refuse (c : Option Char) : Complaint :=
    match c with
    | some c => if c.isDigit && kind ≠ "hexadecimal" then .badDigit c kind else .badNumeral kind
    | none => .badNumeral kind
  if !start.head?.any isDigit then throw (refuse start.head?)
  let (digits, rest) ← match digitGroups isDigit kind start.length start with
    | .ok read => pure read
    | .error _ =>
      let after := (start.dropWhile fun c => isDigit c || c = '_')
      throw (refuse after.head?)
  if rest.head?.any Char.isDigit then throw (refuse rest.head?)
  checkEnd kind rest
  return (⟨false, base, digits⟩, rest)

/-- The rest of a numeral after its exponent, or after where one could be. `whole` are the
    digits before, if there is nothing else. -/
def readSuffix (whole cs : List Char) : Except Complaint (Numeral × List Char) := do
  if cs.head?.any fun c => c = 'j' || c = 'J' then
    checkEnd "imaginary" (cs.drop 1)
    return (⟨true, 10, []⟩, cs.drop 1)
  checkEnd "decimal" cs
  return (⟨false, 10, whole⟩, cs)

/-- The rest of a numeral after its whole part and its places. An `e` without digits
    belongs to what follows. -/
def readExponent (whole cs : List Char) : Except Complaint (Numeral × List Char) :=
  if !cs.head?.any fun c => c = 'e' || c = 'E' then readSuffix whole cs
  else
    let isSigned := (cs.drop 1).head?.any fun c => c = '+' || c = '-'
    let digits := cs.drop (if isSigned then 2 else 1)
    if digits.head?.any Char.isDigit then do
      let (_, rest) ← decimalGroups digits
      readSuffix [] rest
    else if isSigned then .error (.badNumeral "decimal")
    else do
      checkEnd "decimal" cs
      return (⟨false, 10, whole⟩, cs)

/-- The rest of a numeral after its point. -/
def readPlaces (cs : List Char) : Except Complaint (Numeral × List Char) := do
  if cs.head?.any Char.isDigit then
    let (_, rest) ← decimalGroups cs
    readExponent [] rest
  else readExponent [] cs

/-- A decimal numeral. It may start with zeros if it is not a whole number, or if there
    is nothing but zeros. -/
def readDecimal (cs : List Char) : Except Complaint (Numeral × List Char) := do
  let (ds, rest) ← decimalGroups cs
  let isWhole := !rest.head?.any fun c => c ∈ ['.', 'e', 'E', 'j', 'J']
  if ds.head? = some '0' && ds.any (· ≠ '0') && isWhole then throw .leadingZeros
  match rest with
  | '.' :: rest => readPlaces rest
  | rest => readExponent ds rest

def isOctal (c : Char) : Bool := '0' ≤ c && c ≤ '7'

def isBinary (c : Char) : Bool := c = '0' || c = '1'

/-- A numeral that starts with a digit. -/
def read (cs : List Char) : Except Complaint (Numeral × List Char) :=
  match cs with
  | '0' :: c :: rest =>
    if c = 'x' || c = 'X' then readBase 16 Text.isHexDigit "hexadecimal" rest
    else if c = 'o' || c = 'O' then readBase 8 isOctal "octal" rest
    else if c = 'b' || c = 'B' then readBase 2 isBinary "binary" rest
    else readDecimal cs
  | cs => readDecimal cs

end Numeral

end InstallerKit.Literal
