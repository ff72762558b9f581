import InstallerKit.Text.Occurrence

/-!
# Shell words

A command line is shown so that a POSIX shell reads it back as the same words:
a word of harmless characters stands as it is, any other one between
apostrophes, where only the apostrophe itself needs care. It is written outside
of them, between double quotation marks.
-/

namespace InstallerKit.Text.Shell

/-- The characters that a shell takes literally: ASCII letters, digits and a few
    marks. -/
def isPlain (c : Char) : Bool :=
  c.isAlphanum || c ∈ ['_', '@', '%', '+', '=', ':', ',', '.', '/', '-']

/-- A word as a shell reads it. -/
def encode (word : List Char) : List Char :=
  if word = [] then ['\'', '\'']
  else if word.all isPlain then word
  else '\'' :: replaceAll ['\''] ['\'', '"', '\'', '"', '\''] word ++ ['\'']

/-- A command line: its words, with spaces between them. -/
def command (words : List String) : String :=
  " ".intercalate (words.map fun w => .ofList (encode w.toList))

end InstallerKit.Text.Shell
