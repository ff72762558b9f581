import InstallerKit.Console.Settings
import InstallerKit.Console.Text
import InstallerKit.Fault.Trail
import InstallerKit.Text.Occurrence

/-!
# Console messages

A complaint is a line that starts with its level, and lines about the fault behind
it, if there is one: the more, the higher the verbosity. Events are shown by their
summary, in which tags have a meaning; a summary whose tags do not match cannot be
shown, and trying to is a fault.
-/

namespace InstallerKit.Console

/-- The lines about a fault; what `message` already says is left out. -/
def faultLines (s : Settings) (message : String) (f : Fault) : List String :=
  let detail := Text.strip f.message.toList
  (if detail ≠ [] && !Text.occursIn detail message.toList then [String.ofList detail] else []) ++
    ("type: " ++ f.kind.label) :: f.notes ++
    if s.verbosity < 2 || f.causes.isEmpty then []
    else "caused by:" :: f.causes.map fun p => "  " ++ Fault.entry p

/-- The lines of a complaint. -/
def complaintLines (s : Settings) (level message : String) (f : Option Fault) : List String :=
  let extra :=
    match f with
    | some f => if 1 ≤ s.verbosity then faultLines s message f else []
    | none => []
  shownLines ("\n".intercalate ((level ++ ": " ++ message) :: extra))

def warningLines (s : Settings) (message : String) (f : Option Fault) : List String :=
  complaintLines s "warning" message f

def errorLines (s : Settings) (message : String) (f : Option Fault) : List String :=
  complaintLines s "error" message f

/-- The fault of tags that cannot be shown. -/
def tagFault (e : TagError) : Fault :=
  match e with
  | .unmatched _ name _ => .during (.tags e) (.of (.missingKey (.ofList name)))
  | .nothingOpen _ => .during (.tags e) (.of .emptyStack)
  | .badAction _ _ cause => .during (.tags e) (.of (.literal cause))
  | .badStyle _ => .of (.tags e)

/-- The lines of a message with tags. -/
def messageLines (message : String) : Except Fault (List String) :=
  match showTags message with
  | .ok s => .ok (shownLines s)
  | .error e => .error (tagFault e)

/-- The lines of an event. -/
def eventLines (s : Settings) (e : Event) : Except Fault (List String) :=
  if s.verbosity < 1 then .ok []
  else
    match e.summary with
    | .error u => .error (.of (.uncountable u))
    | .ok none => .ok []
    | .ok (some message) => messageLines message

/-- A problem in a report: its kind, and its message if it has one. -/
def reportEntry (p : Problem) : String :=
  if p.message = "" then p.kind.label else Fault.entry p

/-- The report of an unexpected fault: its causes, the furthest one first, and the
    fault itself. -/
def reportLines (f : Fault) : List String :=
  (f.causes.reverse ++ [f.problem]).flatMap fun p => shownLines (reportEntry p)

end InstallerKit.Console
