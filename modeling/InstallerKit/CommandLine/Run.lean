import InstallerKit.BuildFile.Load
import InstallerKit.CommandLine.Request
import InstallerKit.Console.Logging
import InstallerKit.Console.Message
import InstallerKit.Console.Sequences
import InstallerKit.Preprocessor
import InstallerKit.Text.Input
import InstallerKit.Text.Shell

/-!
# Running a command line

A run reads a request and performs it. What it shows goes to two streams: results
and events to the output, the log and complaints to the errors. A build tells what
it has made, and at a higher verbosity also the commands that compile it.

A fault that builds are known for is complained about. Any other fault is
unexpected; so is every fault of a build where the settings ask for all details,
and there it is reported with its causes.
-/

namespace InstallerKit.CommandLine

/-- How a run ends. -/
inductive Ending
  | success
  /-- It could not be made sense of. -/
  | misuse (m : Misuse)
  /-- It failed, and the fault is complained about. -/
  | complaint (f : Fault)
  /-- It failed, and the fault is reported with all details. -/
  | report (f : Fault)

/-- The exit code that tells how a run ended. -/
def Ending.exitCode : Ending → Nat
  | success => 0
  | misuse _ => 2
  | complaint _ => 1
  | report _ => 1

/-- What comes of a run. -/
structure Outcome where
  ending : Ending
  /-- The text for the output. -/
  output : String
  /-- The lines for the errors. -/
  errors : List String
  files : FileSystem

namespace Outcome

/-- The outcome of a fault that nothing was prepared for. -/
def unexpected (s : Console.Settings) (f : Fault) (output : String) (errors : List String)
    (files : FileSystem) : Outcome :=
  if s.debug then ⟨.report f, output, errors ++ Console.reportLines f, files⟩
  else ⟨.complaint f, output, errors ++ Console.errorLines s f.message (some f), files⟩

/-- The outcome of a fault in a build. -/
def failedBuild (s : Console.Settings) (f : Fault) (output : String) (errors : List String)
    (files : FileSystem) : Outcome :=
  if s.debug || !(f.kind.isBuild || f.kind.isSystem || f.kind.isValue) then
    unexpected s f output errors files
  else
    let message := "Failed to build fragment: " ++ f.hint.getD f.message
    ⟨.complaint f, output, errors ++ Console.errorLines s message (some f), files⟩

end Outcome

namespace BuildRequest

/-- The build file with the directories that the request gives. -/
def apply (r : BuildRequest) (b : BuildFile) : BuildFile :=
  { b with
    outputDirectory := r.outputDirectory.getD b.outputDirectory
    resourceDirectory := r.resourceDirectory <|> b.resourceDirectory }

/-- The fault of showing an event, if it cannot be shown. -/
def delivery (s : Console.Settings) (e : Event) : Option Fault :=
  match Console.eventLines s e with
  | .ok _ => none
  | .error f => some f

/-- The lines of the events that can be shown. -/
def eventLines (s : Console.Settings) (es : List Event) : List String :=
  es.flatMap fun e => (Console.eventLines s e).toOption.getD []

/-- Builds what a build file describes. -/
def build (b : BuildFile) (s : Console.Settings) : Action (Fragment.Builder × Fragment.Result) := do
  let builder ← Action.lift id (b.toBuilder (← get).files (delivery s))
  let _ ← builder.logFeatures
  builder.build

/-- The lines about what has been made. -/
def resultLines (r : Fragment.Result) : List String :=
  ("Fragment: " ++ r.path.text ++ " (" ++ r.origin.label ++ ")") ::
    r.resources.map fun p => "Resource: " ++ p.text

/-- The lines about the commands that compile what has been made, and the problem
    that ended them early. -/
def commandLines (b : Fragment.Builder) (r : Fragment.Result) : List String × Option Problem :=
  match b.configurePlan .new with
  | .error p => ([], some p)
  | .ok plan =>
    let (commands, failure) := plan.commands r.path.parent
    (commands.map fun c => "candle: " ++ Text.Shell.command c, failure.map .namelessPath)

/-- The lines of a build that succeeded, and the problem of showing them. -/
def summaryLines (s : Console.Settings) (b : Fragment.Builder) (r : Fragment.Result) :
    List String × Option Problem :=
  if s.verbosity < 1 then (resultLines r, none)
  else
    let (commands, failure) := commandLines b r
    (resultLines r ++ commands, failure)

/-- The text of lines on the console. -/
def shown (lines : List String) : String :=
  .join (lines.map (· ++ "\n"))

/-- Performs a build. -/
def run (r : BuildRequest) (fs : FileSystem) : Outcome :=
  match BuildFile.load fs r.buildFile with
  | .error f =>
    if f.kind = .buildFile then
      ⟨.complaint f, "", Console.errorLines r.settings f.message (some f), fs⟩
    else .unexpected r.settings f "" [] fs
  | .ok b =>
    let log := (Console.Logger.idle.enter r.settings).lines
    match (build (r.apply b) r.settings).run ⟨fs, [], []⟩ with
    | .error f t =>
      .failedBuild r.settings f (shown (eventLines r.settings t.events)) (log t.records) t.files
    | .ok (builder, result) t =>
      let (lines, failure) := summaryLines r.settings builder result
      let output := shown (eventLines r.settings t.events) ++ Console.plainText lines
      match failure with
      | some p => .unexpected r.settings (.of p) output (log t.records) t.files
      | none => ⟨.success, output, log t.records, t.files⟩

end BuildRequest

/-- How the program is used. -/
def usage : List String :=
  ["Usage: " ++ Console.loggerName ++ " [--help] COMMAND",
    "",
    "Generate WiX source fragments and stage their resources.",
    "",
    "Commands:",
    "  build [OPTIONS] BUILD_FILE  Write the WiX fragment described by BUILD_FILE and " ++
      "stage its resources.",
    "    -o, --output-dir DIRECTORY  Directory receiving the fragment and staged resources.",
    "    --resource-dir DIRECTORY    Directory searched for override files.",
    "    -v, --verbose               Show more. May be repeated.",
    "    --debug                     Show all details of unexpected errors.",
    "  escape [TEXT]...            Double every '$' that does not start a $(...) reference.",
    "                              Lines are read from the input if there is no text."]

/-- The lines that are to be escaped: the given ones, or else those of the input;
    and why the input ended early, if it did. -/
def escapeLines (input : List UInt8) (texts : List String) :
    List String × Option Text.Utf8.Error :=
  if texts.isEmpty then
    let read := Text.Input.ofBytes input
    (read.allLines, read.refusal)
  else (texts, none)

/-- Performs a request on some input. -/
def Request.run (fs : FileSystem) (input : List UInt8) : Request → Outcome
  | .help => ⟨.success, Console.plainText usage, [], fs⟩
  | .completion => ⟨.success, "", [], fs⟩
  | .escape texts =>
    let (lines, refusal) := escapeLines input texts
    let output := Console.plainText (lines.map Preprocessor.escapeText)
    match refusal with
    | none => ⟨.success, output, [], fs⟩
    | some e => .unexpected .standard (.of (.undecodable e)) output [] fs
  | .build r => r.run fs

/-- Runs a command line on a file system and some input. -/
def run (fs : FileSystem) (input : List UInt8) (words : List String) : Outcome :=
  match Request.ofWords fs words with
  | .ok request => request.run fs input
  | .error m => ⟨.misuse m, "", [usage.headD "", "error: " ++ m.message], fs⟩

end InstallerKit.CommandLine
