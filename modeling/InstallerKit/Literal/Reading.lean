import InstallerKit.Literal.Reader

/-!
# Readings

The tokens of a text are read plainly first. If they make no expression, they are read once
more with an eye on slips, to find a fault that says more. The tokens that are left then
may have a worse fault in them.
-/

namespace InstallerKit.Literal

/-- The line of a complaint that was found on a line. -/
def Complaint.line (c : Complaint) (line : Nat) : Nat :=
  match c with
  | .openBracket _ first | .inside (.openBracket _ first) => first
  | _ => line

namespace Reading

/-- The fault to be told of some tokens, where there is a complaint on a line after so many
    of them have been looked at. -/
def weigh (inside : Bool) (ts : Array Placed) (seen : Nat) (c : Complaint) (line : Nat) :
    Fault :=
  match ts.back? with
  | some ⟨.fault worse true _, place, _, _⟩ => .slip worse place
  | some ⟨.fault _ false (some (bracket, first)), _, _, _⟩ =>
    if (ts[seen - 1]?).any fun t => first < t.line then
      .slip ((Complaint.openBracket bracket first).voiced inside) first
    else .slip c line
  | _ => .slip c line

/-- The fault to be told of some tokens, when one was found after so many had been looked
    at. At the end of the text, nothing worse is looked for. -/
def decide (inside : Bool) (ts : Array Placed) (seen : Nat) : Fault → Fault
  | .slip c line =>
    if (ts[seen - 1]?).any Placed.final then .slip c line else weigh inside ts seen c line
  | .token c line => .slip c (c.line line)
  | .tooDeep => .tooDeep

/-- The fault of tokens that make no expression, when so many had been looked at in the
    first reading, and in all. -/
def stuck (inside : Bool) (ts : Array Placed) (first seen : Nat) : Fault :=
  match ts[first - 1]? with
  | some ⟨.indent, line, _, _⟩ => .slip .indented line
  | some t => weigh inside ts seen (Complaint.invalid.voiced inside) t.line
  | none => .slip .invalid 1

/-- What a reader reads from a text that starts on a line. -/
def read {α : Type} (r : Reader α) (inside : Bool) (line : Nat) (cs : List Char) :
    Except Fault α :=
  let ts := (Token.tokens line cs).toArray
  match r ⟨ts, false, inside, 0⟩ 0 ⟨0, ∅, ∅⟩ with
  | .done a _ _ => .ok a
  | .fault f seen => .error (decide inside ts seen f)
  | .fail m =>
    match r ⟨ts, true, inside, 0⟩ 0 ⟨m.seen, ∅, ∅⟩ with
    | .fault f seen => .error (decide inside ts seen f)
    | .done _ _ n | .fail n => .error (stuck inside ts m.seen n.seen)

end Reading

end InstallerKit.Literal
