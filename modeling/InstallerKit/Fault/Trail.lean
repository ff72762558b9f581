import InstallerKit.Fault.Basic

/-!
# Trails

A trail goes back in the history of a fault: from a problem to its cause, or, if
it has none, to the problem that was being dealt with when it came up. It ends
where there is neither, or before a problem that it has passed.

The *messages* of a fault are read off the trail that starts at the reported
problem; its *causes* are the trail that starts one step further.
-/

namespace InstallerKit.Fault

/-- The number that a number leads back to. -/
def back (f : Fault) (i : Nat) : Option Nat := do
  let n ← f.nodes[i]?
  (n.cause <|> n.context).filter (· < f.nodes.length)

/-- The trail from a number on that avoids those passed, of at most `fuel` steps. -/
def trailFrom (f : Fault) : (fuel : Nat) → (passed : List Nat) → Option Nat → List Nat
  | 0, _, _ => []
  | _, _, none => []
  | fuel + 1, passed, some i =>
    if i ∈ passed then [] else i :: trailFrom f fuel (i :: passed) (f.back i)

/-- The trail from a number on. A trail passes every node once at most. -/
def trail (f : Fault) (i : Option Nat) : List Nat :=
  f.trailFrom f.nodes.length [] i

/-- The first line of a text without the blanks around it, unless it is blank. -/
def line? (message : String) : Option String :=
  match Text.strip (Text.firstLine (Text.strip message.toList)) with
  | [] => none
  | cs => some (.ofList cs)

/-- The problems at some numbers. -/
def problemsAt (f : Fault) (is : List Nat) : List Problem :=
  is.filterMap fun i => f.nodes[i]?.map Node.problem

/-- The messages of a fault, each by its first line, the reported problem's
    first. -/
def messages (f : Fault) : List String :=
  (f.problemsAt (f.trail f.head)).filterMap fun p => line? p.message

/-- The message from furthest back. -/
def hint (f : Fault) : Option String :=
  f.messages.getLast?

/-- The problems on the trail behind the reported one. -/
def causes (f : Fault) : List Problem :=
  f.problemsAt (f.trail (f.back f.head))

/-- A problem as an entry in a list of causes. -/
def entry (p : Problem) : String :=
  p.kind.label ++ ": " ++ p.message

end InstallerKit.Fault
