/-!
# Flaws in parts of an expression

The parameters of a function without a name, the arguments of a call, and texts that
have expressions in braces each go wrong in ways of their own.
-/

namespace InstallerKit.Literal

/-- What is wrong with the parameters of a function without a name. -/
inductive ParameterFlaw
  /-- A star that no name follows. -/
  | bareStar
  /-- A parameter without a default value after one that has it. -/
  | order
  | parenthesized
  /-- Nothing before a slash. -/
  | slashFirst
  | slashTwice
  | slashAfterStar
  | slashBeforeStar
  /-- A default value for what has one star, or two. -/
  | starDefault (double : Bool)
  | starTwice
  | afterDoubleStar
  | missingDefault
  deriving DecidableEq, Repr

def ParameterFlaw.message : ParameterFlaw → String
  | bareStar => "named arguments must follow bare *"
  | order => "non-default argument follows default argument"
  | parenthesized => "Lambda expression parameters cannot be parenthesized"
  | slashFirst => "at least one argument must precede /"
  | slashTwice => "/ may appear only once"
  | slashAfterStar => "/ must be ahead of *"
  | slashBeforeStar => "expected comma between / and *"
  | starDefault double =>
    "var-" ++ (if double then "keyword" else "positional") ++ " argument cannot have default value"
  | starTwice => "* argument may appear only once"
  | afterDoubleStar => "arguments cannot follow var-keyword argument"
  | missingDefault => "expected default value expression"

/-- What is wrong with the arguments of a call. -/
inductive ArgumentFlaw
  /-- A list of arguments after a table of arguments. -/
  | listAfterTable
  /-- An argument without a name after one with a name, or after a table of them. -/
  | positionAfterName (table : Bool)
  | generator
  /-- An equals sign after something that is no name. -/
  | assignment
  deriving DecidableEq, Repr

def ArgumentFlaw.message : ArgumentFlaw → String
  | listAfterTable => "iterable argument unpacking follows keyword argument unpacking"
  | positionAfterName table =>
    "positional argument follows keyword argument" ++ (if table then " unpacking" else "")
  | generator => "Generator expression must be parenthesized"
  | assignment => "expression cannot contain assignment, perhaps you meant \"==\"?"

/-- A single character, as a text. -/
def charText (c : Char) : String := "'" ++ c.toString ++ "'"

/-- What is wrong with a text that has expressions in braces. -/
inductive FormatFlaw
  | loneBrace
  | openBrace
  /-- Expressions in a format in a format. -/
  | depth
  | backslash
  | remark
  | brackets
  | unmatched (bracket : Char)
  | mismatched (bracket opening : Char)
  | openText
  /-- No expression, and the sign that comes after it. -/
  | empty (next : Option Char)
  | conversion
  deriving DecidableEq, Repr

def FormatFlaw.message : FormatFlaw → String
  | loneBrace => "f-string: single '\x7d' is not allowed"
  | openBrace => "f-string: expecting '\x7d'"
  | depth => "f-string: expressions nested too deeply"
  | backslash => "f-string expression part cannot include a backslash"
  | remark => "f-string expression part cannot include '#'"
  | brackets => "f-string: too many nested parenthesis"
  | unmatched bracket => "f-string: unmatched " ++ charText bracket
  | mismatched bracket opening =>
    "f-string: closing parenthesis " ++ charText bracket ++
      " does not match opening parenthesis " ++ charText opening
  | openText => "f-string: unterminated string"
  | empty (some c) => "f-string: expression required before " ++ charText c
  | empty none => "f-string: empty expression not allowed"
  | conversion => "f-string: invalid conversion character: expected 's', 'r', or 'a'"

end InstallerKit.Literal
