/-!
# Control sequences

A control sequence tells a terminal to change colours or to move the cursor: an
escape character, a bracket, digits and marks, and a letter. Where a text does not
go to a terminal, plain lines are shown without them.
-/

namespace InstallerKit.Console

/-- The characters between the bracket and the letter. -/
def isParameter (c : Char) : Bool :=
  c.isDigit || c = ';' || c = '?'

/-- The length of the control sequence that a text starts with. -/
def sequenceLength? : List Char → Option Nat
  | '\x1b' :: '[' :: cs =>
    let parameters := cs.takeWhile isParameter
    match cs.drop parameters.length with
    | c :: _ => if c.isAlpha then some (parameters.length + 3) else none
    | [] => none
  | _ => none

/-- The text without control sequences, after its first `skip` characters, which
    belong to one already found. -/
def dropSequencesFrom : (skip : Nat) → List Char → List Char
  | _, [] => []
  | skip + 1, _ :: cs => dropSequencesFrom skip cs
  | 0, c :: cs =>
    match sequenceLength? (c :: cs) with
    | some n => dropSequencesFrom (n - 1) cs
    | none => c :: dropSequencesFrom 0 cs

/-- The text without control sequences. -/
def dropSequences (s : String) : String :=
  .ofList (dropSequencesFrom 0 s.toList)

/-- The text of some plain lines, each with its end. -/
def plainText (lines : List String) : String :=
  .join (lines.map fun line => dropSequences line ++ "\n")

end InstallerKit.Console
