/-!
# Occurrences of a text in another

Where a text occurs and what takes its place. Occurrences are counted from the
left and do not overlap: the search goes on after the end of the one it found.
-/

namespace InstallerKit.Text

/-- Whether `needle` occurs in the text. -/
def occursIn (needle : List Char) : List Char → Bool
  | [] => needle.isEmpty
  | c :: cs => needle.isPrefixOf (c :: cs) || occursIn needle cs

/-- The text with `new` in the place of every occurrence of `old`, after the
    first `skip` characters, which belong to an occurrence already replaced. -/
def replaceFrom (old new : List Char) : (skip : Nat) → List Char → List Char
  | _, [] => []
  | skip + 1, _ :: cs => replaceFrom old new skip cs
  | 0, c :: cs =>
    if old.isPrefixOf (c :: cs) then new ++ replaceFrom old new (old.length - 1) cs
    else c :: replaceFrom old new 0 cs

/-- The text with `new` in the place of every occurrence of `old`, a text that
    is not empty. -/
def replaceAll (old new cs : List Char) : List Char :=
  replaceFrom old new 0 cs

/-- Whether `needle` occurs in `s`. -/
def contains (s needle : String) : Bool :=
  occursIn needle.toList s.toList

end InstallerKit.Text
