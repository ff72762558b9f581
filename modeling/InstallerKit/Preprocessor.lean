/-!
# Literal dollars

The compiler's preprocessor runs over a source before it is parsed. It puts the
value of a variable in the place of a *reference*, which is a dollar, a
parenthesis, and everything up to the next closing parenthesis; any other dollar
has to be written twice to come out as one.

`escape` doubles the dollars that open no reference. It looks at one text at a
time: a reference that is cut in two by the boundary between two texts is not
recognised in either of them.
-/

namespace InstallerKit.Preprocessor

/-- Whether a dollar followed by this text opens a reference: the text opens a
    parenthesis and closes one later. -/
def opensReference : List Char → Bool
  | c :: cs => c == '(' && cs.contains ')'
  | [] => false

/-- The text with every dollar doubled that opens no reference. -/
def escape : List Char → List Char
  | [] => []
  | c :: cs =>
    if c = '$' ∧ opensReference cs = false then '$' :: '$' :: escape cs else c :: escape cs

/-- The text with every dollar doubled that opens no reference. -/
def escapeText (s : String) : String :=
  .ofList (escape s.toList)

end InstallerKit.Preprocessor
