import InstallerKit.Fault.Basic

/-!
# Console settings

How much a console shows, and how the settings in force are found. Commands run in
nested contexts, each of which may have settings of its own. Those of a context
are its own, or else those of the nearest context around it. Whatever is found is
also remembered, and is what counts outside of all contexts.
-/

namespace InstallerKit.Console

/-- How much a console shows. -/
structure Settings where
  verbosity : Int
  /-- Whether unexpected faults are shown with all details. -/
  debug : Bool
  deriving DecidableEq, Repr

namespace Settings

/-- What a console shows unless it is told otherwise. -/
def standard : Settings := ⟨0, false⟩

/-- The level from which on records are shown. -/
def threshold (s : Settings) : Level :=
  if 2 ≤ s.verbosity || s.debug then .debug
  else if s.verbosity = 1 then .info
  else .warning

/-- Changes what is given. There is no negative verbosity to be set. -/
def update (verbosity : Option Int) (debug : Option Bool) (s : Settings) : Settings where
  verbosity := (verbosity.map (max 0)).getD s.verbosity
  debug := debug.getD s.debug

end Settings

/-- A context of a command. -/
structure Context where
  /-- The number of the context around it. -/
  outer : Option Nat
  /-- The number of its own settings. -/
  settings : Option Nat
  deriving DecidableEq, Repr

/-- All contexts and settings. -/
structure Registry where
  contexts : List Context
  settings : List Settings
  /-- The number of the settings that were found last. -/
  latest : Option Nat
  deriving DecidableEq, Repr

namespace Registry

/-- The number of the settings of the nearest context that has any, among at most
    `fuel` contexts. -/
def nearest (r : Registry) : (fuel : Nat) → Nat → Option Nat
  | 0, _ => none
  | fuel + 1, i => do
    let c ← r.contexts[i]?
    match c.settings with
    | some n => some n
    | none => r.nearest fuel (← c.outer)

/-- Adds standard settings. Answers their number. -/
def addStandard (r : Registry) : Registry × Nat :=
  ({ r with settings := r.settings ++ [.standard] }, r.settings.length)

/-- Adds a context, perhaps within another one, and perhaps with settings of its own. -/
def enter (r : Registry) (outer : Option Nat) (own : Option Settings) : Registry :=
  { r with
    contexts := r.contexts ++ [⟨outer, own.map fun _ => r.settings.length⟩]
    settings := r.settings ++ own.toList }

/-- Gives a context settings. -/
def attach (r : Registry) (context number : Nat) : Registry :=
  { r with contexts := r.contexts.modify context fun c => { c with settings := some number } }

/-- Finds the settings of a context, or of none, and answers their number. If there
    are none, standard ones are made, if that is wanted. -/
def find (r : Registry) (context : Option Nat) (create : Bool) :
    Except Problem (Registry × Nat) :=
  let outside : Except Problem (Registry × Nat) :=
    match r.latest with
    | some n => .ok (r, n)
    | none =>
      if create then
        let (r, n) := r.addStandard
        .ok ({ r with latest := some n }, n)
      else .error .noState
  match context with
  | none => outside
  | some i =>
    match r.nearest r.contexts.length i with
    | some n => .ok ({ r with latest := some n }, n)
    | none =>
      if create then
        let (r, n) := r.addStandard
        .ok ({ r.attach i n with latest := some n }, n)
      else outside

/-- The settings of a number. -/
def get (r : Registry) (number : Nat) : Settings :=
  r.settings.getD number .standard

/-- Changes the settings of a context, or of none, and answers their number. -/
def update (r : Registry) (context : Option Nat) (verbosity : Option Int) (debug : Option Bool) :
    Except Problem (Registry × Nat) := do
  let (r, n) ← r.find context true
  return ({ r with settings := r.settings.modify n (.update verbosity debug) }, n)

/-- Whether the settings of a context, or of none, ask for all details. Without
    settings they do not. -/
def debugEnabled (r : Registry) (context : Option Nat) : Registry × Bool :=
  match r.find context false with
  | .ok (r, n) => (r, (r.get n).debug)
  | .error _ => (r, false)

end Registry

end InstallerKit.Console
