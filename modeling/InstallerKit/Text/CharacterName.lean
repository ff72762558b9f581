import InstallerKit.Text.CharacterName.FromA
import InstallerKit.Text.CharacterName.FromC
import InstallerKit.Text.CharacterName.FromD
import InstallerKit.Text.CharacterName.FromF
import InstallerKit.Text.CharacterName.FromI
import InstallerKit.Text.CharacterName.FromM
import InstallerKit.Text.CharacterName.FromP
import InstallerKit.Text.CharacterName.FromT
import InstallerKit.Text.Hex
import InstallerKit.Text.Ranges

/-!
# The names of characters

A character may be written by its name in Unicode 14.0. Most names are words, in letters
of either case. Some characters are named by their number, or one after another; those
of Braille by their dots. The syllables of Hangul are named by their letters, and the
unified ideographs by their numbers, in capitals only.
-/

namespace InstallerKit.Text

namespace CharacterName

/-- The names that start with a letter, word by word. -/
def namesFrom (c : Char) : List String :=
  ([('A', namesFromA), ('B', namesFromB), ('C', namesFromC), ('D', namesFromD),
    ('E', namesFromE), ('F', namesFromF), ('G', namesFromG), ('H', namesFromH),
    ('I', namesFromI), ('J', namesFromJ), ('K', namesFromK), ('L', namesFromL),
    ('M', namesFromM), ('N', namesFromN), ('O', namesFromO), ('P', namesFromP),
    ('Q', namesFromQ), ('R', namesFromR), ('S', namesFromS), ('T', namesFromT),
    ('U', namesFromU), ('V', namesFromV), ('W', namesFromW), ('X', namesFromX),
    ('Y', namesFromY), ('Z', namesFromZ)].lookup c).getD []

/-- Where a search for some words has got to in a text of names. -/
structure Search where
  /-- The number of words before this one. -/
  depth : Nat
  /-- How many of these are the words that are looked for. -/
  matched : Nat
  /-- The letters of this word so far, the last one first. -/
  word : List Char
  found : Bool

namespace Search

/-- The beginning of a search. -/
def start : Search := ⟨0, 0, [], false⟩

/-- Whether the word up to this place is the one that is looked for. -/
def fits (words : List (List Char)) (s : Search) : Bool :=
  s.word ≠ [] && s.matched = s.depth && words[s.depth]? = some s.word.reverse

/-- The end of a word that may be the last one of a name. -/
def endWord (words : List (List Char)) (s : Search) : Search :=
  { s with word := [], found := s.found || (s.fits words && s.depth + 1 = words.length) }

/-- The next character of the names. -/
def step (words : List (List Char)) (s : Search) (c : Char) : Search :=
  if c = ' ' then s.endWord words
  else if c = '(' then
    let matched := if s.fits words then s.depth + 1 else s.matched
    { s with word := [], depth := s.depth + 1, matched }
  else if c = ')' then
    let s := s.endWord words
    { s with depth := s.depth - 1, matched := min s.matched (s.depth - 1) }
  else { s with word := c :: s.word }

/-- The next line of the names. -/
def line (words : List (List Char)) (s : Search) (l : String) : Search :=
  (l.toList.foldl (step words) s).endWord words

end Search

/-- The words of a text. -/
def wordsOf (cs : List Char) : List (List Char) :=
  cs.splitOnP (· = ' ')

/-- Whether a text in capitals is a name of words. -/
def isWordy (cs : List Char) : Bool :=
  match cs.head? with
  | some c => ((namesFrom c).foldl (Search.line (wordsOf cs)) .start).found
  | none => false

/-- The names that end in the number of the character. -/
def byNumber : List (String × Ranges) :=
  [("CJK COMPATIBILITY IDEOGRAPH-", [(0xf900, 0xfa6d), (0xfa70, 0xfad9), (0x2f800, 0x2fa1d)]),
   ("KHITAN SMALL SCRIPT CHARACTER-", [(0x18b00, 0x18cd5)]),
   ("NUSHU CHARACTER-", [(0x1b170, 0x1b2fb)])]

/-- The names that end in the place in a row: the least number of digits, and how many
    there are. -/
def byPlace : List (String × Nat × Nat) :=
  [("TANGUT COMPONENT-", 3, 768), ("VARIATION SELECTOR-", 1, 256)]

/-- What follows a beginning. -/
def after? (start : String) (cs : List Char) : Option (List Char) :=
  if start.toList.isPrefixOf cs then some (cs.drop start.length) else none

/-- The number that capital hexadecimal digits stand for. -/
def number? (cs : List Char) : Option Nat :=
  if cs.all fun c => c.isDigit || ('A' ≤ c && c ≤ 'F') then
    some (cs.foldl (fun n c => 16 * n + hexValue c) 0)
  else none

/-- Whether some characters are a number in some ranges, in as few digits as possible but
    not fewer than four. -/
def isNumber (ranges : Ranges) (cs : List Char) : Bool :=
  cs.length ≤ 6 && (number? cs).any fun n =>
    ranges.contains n && cs.length = max 4 (Nat.toDigits 16 n).length

/-- Whether some characters are a place from one up to `count`, in digits, as few as
    possible but not fewer than `width`. -/
def isPlace (width count : Nat) (cs : List Char) : Bool :=
  let n := cs.foldl (fun n c => 10 * n + (c.toNat - '0'.toNat)) 0
  cs.all Char.isDigit && cs.length ≤ 6 && 0 < n && n ≤ count &&
    cs.length = max width (Nat.toDigits 10 n).length

/-- Whether some characters are different dots in their order. -/
def areDots (cs : List Char) : Bool :=
  cs ≠ [] && cs.isSublist "12345678".toList

/-- Whether a text in capitals is the name of a character in a row. -/
def isCounted (cs : List Char) : Bool :=
  byNumber.any (fun (start, ranges) => (after? start cs).any (isNumber ranges)) ||
    byPlace.any (fun (start, width, count) => (after? start cs).any (isPlace width count)) ||
    (after? "BRAILLE PATTERN DOTS-" cs).any areDots

/-- The letters that a syllable of Hangul may start with. -/
def firstLetters : List String :=
  ["", "G", "GG", "N", "D", "DD", "R", "M", "B", "BB", "S", "SS", "J", "JJ", "C", "K", "T", "P",
    "H"]

/-- The letters in the middle of a syllable. -/
def middleLetters : List String :=
  ["A", "AE", "YA", "YAE", "EO", "E", "YEO", "YE", "O", "WA", "WAE", "OE", "YO", "U", "WEO",
    "WE", "WI", "YU", "EU", "YI", "I"]

/-- The letters that a syllable may end with. -/
def lastLetters : List String :=
  ["", "G", "GG", "GS", "N", "NJ", "NH", "D", "L", "LG", "LM", "LB", "LS", "LT", "LP", "LH", "M",
    "B", "BS", "S", "SS", "NG", "J", "C", "K", "T", "P", "H"]

/-- What follows the longest of some beginnings. -/
def afterLongest? (starts : List String) (cs : List Char) : Option (List Char) :=
  let fitting := starts.filter fun s => s.toList.isPrefixOf cs
  let longest := fitting.foldl (fun n s => max n s.length) 0
  if fitting = [] then none else some (cs.drop longest)

/-- Whether some letters are a syllable of Hangul. -/
def isSyllable (cs : List Char) : Bool :=
  let rest := (afterLongest? firstLetters cs).bind fun cs =>
    (afterLongest? middleLetters cs).bind (afterLongest? lastLetters)
  rest = some []

/-- The unified ideographs. -/
def ideographs : Ranges :=
  [(0x3400, 0x4dbf), (0x4e00, 0x9fff), (0x20000, 0x2a6df), (0x2a700, 0x2b738),
   (0x2b740, 0x2b81d), (0x2b820, 0x2cea1), (0x2ceb0, 0x2ebe0), (0x30000, 0x3134a)]

/-- Whether some characters are the number of a unified ideograph, in four or five
    digits. -/
def isIdeograph (cs : List Char) : Bool :=
  (cs.length = 4 || cs.length = 5) && (number? cs).any ideographs.contains

end CharacterName

open CharacterName in
/-- Whether a text is the name of a character. -/
def isCharacterName (cs : List Char) : Bool :=
  match after? "HANGUL SYLLABLE " cs, after? "CJK UNIFIED IDEOGRAPH-" cs with
  | some letters, _ => isSyllable letters
  | _, some digits => isIdeograph digits
  | none, none =>
    let cs := cs.map Char.toUpper
    isWordy cs || isCounted cs

end InstallerKit.Text
