import InstallerKit.Literal.Expression
import InstallerKit.Literal.Token
import Std.Data.HashMap

/-!
# Readers of tokens

A reader takes tokens from its place on, or fails, or finds a fault. Where it fails,
another reader may be tried from the same place; a fault ends everything. A token that is
a fault is found as soon as it is looked at.

What a *rule* reads from a place is kept, so that it need not be read there again. It is
kept for good: what has been read without an eye on slips stays as it is.
-/

namespace InstallerKit.Literal

/-- A part of the grammar whose readings are kept. -/
inductive Rule
  | expression
  | starExpression
  | disjunction
  | conjunction
  | inversion
  | union
  | exclusion
  | intersection
  | shift
  | sum
  | term
  | factor
  | awaited
  | primary
  | texts
  | target
  | place
  | base
  | namingSlip
  deriving DecidableEq, Hashable, Repr

/-- An argument of a call. -/
inductive Argument
  /-- One without a name, on a line, or a list of them. -/
  | position (line : Nat)
  | named
  /-- A table of arguments. -/
  | table
  deriving DecidableEq, Repr

/-- What is kept of a reading: what it was, and the place after it; none if it failed. -/
abbrev Kept (α : Type) := Option (α × Nat)

/-- How tokens are read. -/
structure Setting where
  tokens : Array Placed
  /-- Whether slips are looked for. -/
  careful : Bool
  /-- Whether this is about an expression inside of a text. -/
  inside : Bool
  /-- How many readers are at work inside of each other. -/
  depth : Nat

/-- What is left of the readings before. -/
structure Memory where
  /-- How many tokens have been looked at. -/
  seen : Nat
  kept : Std.HashMap (Rule × Nat) (Kept Expression)
  keptArguments : Std.HashMap Nat (Kept (List Argument))

/-- Why a reading ends early. -/
inductive Fault
  /-- A slip on a line. Tokens that are worse may come after it. -/
  | slip (c : Complaint) (line : Nat)
  /-- A token that is none. -/
  | token (c : Complaint) (line : Nat)
  /-- Too many readers inside each other. -/
  | tooDeep
  deriving DecidableEq, Repr

/-- What comes of reading. -/
inductive Outcome (α : Type)
  /-- A value, and the number of the token after what was read. -/
  | done (value : α) (place : Nat) (m : Memory)
  | fail (m : Memory)
  /-- A fault, after some tokens have been looked at. -/
  | fault (f : Fault) (seen : Nat)

/-- A reader of tokens from the one with a number on. -/
def Reader (α : Type) := Setting → Nat → Memory → Outcome α

/-- A complaint as it is made about an expression that may be inside of a text. -/
def Complaint.voiced (inside : Bool) (c : Complaint) : Complaint :=
  if inside then .inside c else c

namespace Reader

variable {α β : Type}

instance : Monad Reader where
  pure a := fun _ place m => .done a place m
  bind r f := fun s place m =>
    match r s place m with
    | .done a place m => f a s place m
    | .fail m => .fail m
    | .fault f seen => .fault f seen

/-- The reader that fails. -/
def fail : Reader α := fun _ _ m => .fail m

/-- The reader that finds a fault. -/
def stop (f : Fault) : Reader α := fun _ _ m => .fault f m.seen

/-- The reader that finds a slip on a line. -/
def slip (c : Complaint) (line : Nat) : Reader α := fun s _ m =>
  .fault (.slip (c.voiced s.inside) line) m.seen

/-- The line of the last token that has been looked at. -/
def lastLine : Reader Nat := fun s place m =>
  .done (((s.tokens[m.seen - 1]?).map Placed.line).getD 1) place m

/-- The reader that finds a slip where the reading has got to. -/
def complain (c : Complaint) : Reader α := do
  slip c (← lastLine)

/-- The next token, which is left in its place. -/
def next : Reader Placed := fun s place m =>
  match s.tokens[place]? with
  | none => .fail m
  | some t =>
    let seen := max m.seen (place + 1)
    match t.token with
    | .fault c true _ => .fault (.token c t.line) seen
    | .fault c false _ => .fault (.token (c.voiced s.inside) t.line) seen
    | _ => .done t place { m with seen }

/-- Passes the next token. -/
def pass : Reader Unit := fun _ place m => .done () (place + 1) m

/-- The token before this place. -/
def last? : Reader (Option Placed) := fun s place m => .done (s.tokens[place - 1]?) place m

/-- Whether slips are looked for. -/
def isCareful : Reader Bool := fun s place m => .done s.careful place m

/-- The line of the next token. -/
def line : Reader Nat := Placed.line <$> next

/-- The greatest number of readers inside each other. -/
def maxDepth : Nat := 6000

/-- A reader inside of those at work. -/
def layer (r : Reader α) : Reader α := fun s place m =>
  if maxDepth ≤ s.depth then .fault .tooDeep m.seen
  else r { s with depth := s.depth + 1 } place m

/-- A reader without an eye on slips. -/
def careless (r : Reader α) : Reader α := fun s place m =>
  r { s with careful := false } place m

/-- One reader, or another one if that fails. -/
def orElse (r q : Reader α) : Reader α := fun s place m =>
  match r s place m with
  | .fail m => q s place m
  | outcome => outcome

/-- The first of some readers that does not fail. -/
def choose (rs : List (Reader α)) : Reader α :=
  rs.foldr orElse fail

/-- A reader that only looks for slips. -/
def ifCareful (r : Reader α) : Reader α := do
  if ← isCareful then r else fail

/-- A reader, unless it fails. -/
def optional (r : Reader α) : Reader (Option α) :=
  orElse (some <$> r) (return none)

/-- Whether a reader would not fail here. -/
def fits (r : Reader α) : Reader Bool := fun s place m =>
  match r s place m with
  | .done _ _ m => .done true place m
  | .fail m => .done false place m
  | .fault f seen => .fault f seen

/-- Goes on only where a reader would not fail. -/
def ahead (r : Reader α) : Reader Unit := do
  if !(← fits r) then fail

/-- Goes on only where a reader would fail. -/
def notAhead (r : Reader α) : Reader Unit := do
  if ← fits r then fail

/-- What a reader reads one time after another, until it fails or `fuel` is used up. -/
def repeated (r : Reader α) : (fuel : Nat) → Reader (List α)
  | 0 => return []
  | fuel + 1 => fun s place m =>
    match r s place m with
    | .done a place m =>
      match repeated r fuel s place m with
      | .done as place m => .done (a :: as) place m
      | .fail m => .fail m
      | .fault f seen => .fault f seen
    | .fail m => .done [] place m
    | .fault f seen => .fault f seen

/-- What a reader reads one time after another, until it fails. -/
def repeatedly (r : Reader α) : Reader (List α) := fun s place m =>
  repeated r s.tokens.size s place m

/-- The same, as another reader inside of those at work. -/
def many (r : Reader α) : Reader (List α) := layer (repeatedly r)

/-- What a reader reads one time after another, at least once. -/
def atLeastOne (r : Reader α) : Reader (List α) := do
  let as ← many r
  if as.isEmpty then fail else return as

/-- Passes a sign. -/
def sign (s : String) : Reader Unit := do
  if (← next).token = .sign s then pass else fail

/-- Passes a word. -/
def word (s : String) : Reader Unit := do
  if (← next).token = .word s.toList then pass else fail

/-- A sign out of some. -/
def oneOf (signs : List String) : Reader String := do
  match (← next).token with
  | .sign s => if s ∈ signs then pass *> return s else fail
  | _ => fail

/-- What a reader reads with commas in between. -/
def separated (r : Reader α) : Reader (List α) := layer do
  let first ← r
  let rest ← many (sign "," *> r)
  return first :: rest

/-- The slip that is told by the first of some readers that does not fail; it may tell
    none. -/
def told (rs : List (Reader (Option (Complaint × Nat)))) : Reader α := layer do
  match ← choose rs with
  | some (c, line) => slip c line
  | none => fail

/-- A reading of a rule, unless there is one that has been kept. -/
def keeping (rule : Rule) (r : Reader Expression) : Reader Expression := do
  let _ ← next
  fun s place m =>
    match m.kept[(rule, place)]? with
    | some (some (e, after)) => .done e after m
    | some none => .fail m
    | none =>
      match r s place m with
      | .done e after m =>
        .done e after { m with kept := m.kept.insert (rule, place) (some (e, after)) }
      | .fail m => .fail { m with kept := m.kept.insert (rule, place) none }
      | .fault f seen => .fault f seen

/-- A reading of arguments, unless there is one that has been kept. -/
def keepingArguments (r : Reader (List Argument)) : Reader (List Argument) := do
  let _ ← next
  fun s place m =>
    match m.keptArguments[place]? with
    | some (some (as, after)) => .done as after m
    | some none => .fail m
    | none =>
      match r s place m with
      | .done as after m =>
        .done as after
          { m with keptArguments := m.keptArguments.insert place (some (as, after)) }
      | .fail m => .fail { m with keptArguments := m.keptArguments.insert place none }
      | .fault f seen => .fault f seen

end Reader

end InstallerKit.Literal
