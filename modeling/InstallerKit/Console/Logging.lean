import InstallerKit.Console.Message

/-!
# Routing the log to the console

While a command runs, the records of the library are shown on the console, if they
reach the level that the settings ask for. Such routes can be nested: entering one
takes the place of the one around it, and leaving it restores the level that was in
force before, but not the route.
-/

namespace InstallerKit.Console

/-- The name of the program, and of the library's logger. -/
def loggerName : String := "wixsmith"

/-- Whether the records of a logger are the library's: its own, or those of a part
    of it. -/
def isOwnLogger (name : String) : Bool :=
  name = loggerName || (loggerName ++ ".").isPrefixOf name

/-- The library's logger. -/
structure Logger where
  /-- The number of routes to the console. -/
  routes : Nat
  /-- The level from which on records are kept, if any is set. -/
  level : Option Level
  deriving DecidableEq, Repr

namespace Logger

/-- The logger before anything is routed. -/
def idle : Logger := ⟨0, none⟩

/-- The name of the level. -/
def levelLabel (l : Logger) : String :=
  (l.level.map Level.label).getD "NOTSET"

/-- Enters a route. -/
def enter (s : Settings) (_ : Logger) : Logger :=
  ⟨1, some s.threshold⟩

/-- Leaves a route that was entered from `before`. -/
def leave (before _ : Logger) : Logger :=
  ⟨0, before.level⟩

/-- The logger inside of nested routes, the outermost first, and then after leaving
    each of them, the innermost first. -/
def nested (l : Logger) : List Settings → List Logger
  | [] => [l]
  | s :: rest => nested (l.enter s) rest ++ [l.leave (l.enter s)]

/-- Whether a record is kept. -/
def keeps (l : Logger) (r : Record) : Bool :=
  l.routes ≠ 0 && l.level.all fun threshold => r.level.reaches threshold

/-- The lines of the records that are kept. -/
def lines (l : Logger) (rs : List Record) : List String :=
  (rs.filter l.keeps).flatMap recordLines

end Logger

end InstallerKit.Console
