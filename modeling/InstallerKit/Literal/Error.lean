import InstallerKit.Literal.Flaw
import InstallerKit.Text.Digit
import InstallerKit.Text.Quoted

/-!
# What is wrong with a literal

A text is no literal if its characters make no tokens, if the tokens make no
expression, or if the expression is no plain value. Values that can change cannot be
members of a set or keys of a table.
-/

namespace InstallerKit.Literal

/-- What is wrong with the form of a text. -/
inductive Complaint
  /-- No expression, for no reason that is known better. -/
  | invalid
  /-- Quotation marks that are not closed when a line, or everything, ends. -/
  | openText (lines : Bool) (line : Nat)
  | openBracket (bracket : Char) (line : Nat)
  | unmatched (bracket : Char)
  /-- A bracket that closes another one; with the line of that, if it is another line. -/
  | mismatched (bracket opening : Char) (line : Option Nat)
  | nesting
  | badCharacter (c : Char)
  /-- Something after a backslash between tokens. -/
  | afterBackslash
  /-- Nothing after a backslash at the end of a line. -/
  | unexpectedEnd
  | indented
  /-- Less indented than the lines before, but not like any of them. -/
  | unevenIndent
  /-- Indentations that are compared differently with other widths of a tab. -/
  | mixedIndent
  | badNumeral (kind : String)
  | badDigit (c : Char) (kind : String)
  | leadingZeros
  | longNumeral (digits : Nat)
  /-- Bytes for something that is not ASCII. -/
  | wideByte
  /-- An escape between two positions. -/
  | badEscape (first last : Nat) (reason : String)
  | badByteEscape (position : Nat)
  /-- Texts and bytes next to each other. -/
  | mixed
  | missingComma
  /-- A name, an equals sign and a value between brackets. -/
  | single
  /-- An equals sign after something that is no name. -/
  | unassignable (kind : String)
  /-- Something that is no name, where a name is to be given. -/
  | fixed (kind : String)
  | unnameable (kind : String)
  | missingElse
  | missingCall (name : String)
  | missingColon
  | missingValue
  | starredValue
  | starred
  | doublyStarred
  | starredComprehension
  | doublyStarredComprehension
  /-- Several values for each member, without parentheses. -/
  | bareTarget
  | parameters (p : ParameterFlaw)
  | arguments (a : ArgumentFlaw)
  | format (f : FormatFlaw)
  /-- A complaint about an expression inside of a text. -/
  | inside (c : Complaint)
  deriving DecidableEq, Repr

/-- A character by its number in capital hexadecimal digits, at least four. -/
def codePoint (c : Char) : String :=
  let ds := (Nat.toDigits 16 c.toNat).map Char.toUpper
  "U+" ++ .ofList (List.replicate (4 - ds.length) '0' ++ ds)

def Complaint.message : Complaint → String
  | invalid => "invalid syntax"
  | openText lines line =>
    "unterminated " ++ (if lines then "triple-quoted " else "") ++
      "string literal (detected at line " ++ toString line ++ ")"
  | openBracket bracket _ => charText bracket ++ " was never closed"
  | unmatched bracket => "unmatched " ++ charText bracket
  | mismatched bracket opening line =>
    "closing parenthesis " ++ charText bracket ++ " does not match opening parenthesis " ++
      charText opening ++ (line.map fun n => " on line " ++ toString n).getD ""
  | nesting => "too many nested parentheses"
  | badCharacter c =>
    if Text.isPrintable c then "invalid character " ++ charText c ++ " (" ++ codePoint c ++ ")"
    else "invalid non-printable character " ++ codePoint c
  | afterBackslash => "unexpected character after line continuation character"
  | unexpectedEnd => "unexpected EOF while parsing"
  | indented => "unexpected indent"
  | unevenIndent => "unindent does not match any outer indentation level"
  | mixedIndent => "inconsistent use of tabs and spaces in indentation"
  | badNumeral kind => "invalid " ++ kind ++ " literal"
  | badDigit c kind => "invalid digit " ++ charText c ++ " in " ++ kind ++ " literal"
  | leadingZeros =>
    "leading zeros in decimal integer literals are not permitted; " ++
      "use an 0o prefix for octal integers"
  | longNumeral digits =>
    Text.tooManyDigits digits ++
      " - Consider hexadecimal for huge integer literals to avoid decimal conversion limits."
  | wideByte => "bytes can only contain ASCII literal characters"
  | badEscape first last reason =>
    "(unicode error) 'unicodeescape' codec can't decode bytes in position " ++ toString first ++
      "-" ++ toString last ++ ": " ++ reason
  | badByteEscape position => "(value error) invalid \\x escape at position " ++ toString position
  | mixed => "cannot mix bytes and nonbytes literals"
  | missingComma => "invalid syntax. Perhaps you forgot a comma?"
  | single => "invalid syntax. Maybe you meant '==' or ':=' instead of '='?"
  | unassignable kind =>
    "cannot assign to " ++ kind ++ " here. Maybe you meant '==' instead of '='?"
  | fixed kind => "cannot assign to " ++ kind
  | unnameable kind => "cannot use assignment expressions with " ++ kind
  | missingElse => "expected 'else' after 'if' expression"
  | missingCall name =>
    "Missing parentheses in call to '" ++ name ++ "'. Did you mean " ++ name ++ "(...)?"
  | missingColon => "':' expected after dictionary key"
  | missingValue => "expression expected after dictionary key and ':'"
  | starredValue => "cannot use a starred expression in a dictionary value"
  | starred => "cannot use starred expression here"
  | doublyStarred => "cannot use double starred expression here"
  | starredComprehension => "iterable unpacking cannot be used in comprehension"
  | doublyStarredComprehension => "dict unpacking cannot be used in dict comprehension"
  | bareTarget => "did you forget parentheses around the comprehension target?"
  | parameters p => p.message
  | arguments a => a.message
  | format f => f.message
  | inside c => "f-string: " ++ c.message

/-- Why a text is no literal. -/
inductive Error
  | form (c : Complaint) (line : Nat)
  | nullCharacter
  /-- More than there is room for. -/
  | tooDeep
  /-- An expression in which too many are inside each other. -/
  | deepExpression
  /-- An expression that is no plain value. -/
  | value (line : Nat)
  /-- A table with another one's entries. -/
  | unpacked
  /-- A value of a kind that cannot be a member or a key. -/
  | changeable (kind : String)
  /-- A whole number that is too great to be a part of a complex one. -/
  | hugeNumber
  deriving DecidableEq, Repr

/-- What is said of a text that is no literal. -/
def Error.message : Error → String
  | form c _ => c.message
  | nullCharacter => "source code string cannot contain null bytes"
  | tooDeep => ""
  | deepExpression => "maximum recursion depth exceeded during ast construction"
  | value line => "malformed node or string on line " ++ toString line
  | unpacked => "malformed node or string: None"
  | changeable kind => "unhashable type: '" ++ kind ++ "'"
  | hugeNumber => "int too large to convert to float"

/-- The same, with the place where a fault of the form was found. -/
def Error.report : Error → String
  | form c line => c.message ++ " (<unknown>, line " ++ toString line ++ ")"
  | e => e.message

end InstallerKit.Literal
