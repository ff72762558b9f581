import InstallerKit.CommandLine.Arguments
import InstallerKit.Console.Settings

/-!
# Requests

What a command line asks for: help, text to be escaped, a build, or the completion
of its words by a shell. It is read from the outside in: the options before the
command, the command, and then the options and operands of the command. Help that
is asked for properly is given whatever else is wrong.

Paths are checked while they are read, in the order of the options, the build file
last. The build file has to be there; a directory need not, as long as there is no
file in its place.
-/

namespace InstallerKit.CommandLine

/-- How a command line is wrong. -/
inductive Misuse
  | noCommand
  | unknownCommand (word : String)
  | badOptions
  | noBuildFile
  | extraOperand (word : String)
  | missing (path : Path)
  | notFile (path : Path)
  | notDirectory (path : Path)
  /-- A path that no file system knows. -/
  | badPath (e : FileSystem.Error)
  deriving DecidableEq, Repr

def Misuse.message : Misuse → String
  | noCommand => "a command is missing"
  | unknownCommand word => "there is no command " ++ Text.quoted word
  | badOptions => "the options cannot be read"
  | noBuildFile => "the build file is missing"
  | extraOperand word => "there is no use for " ++ Text.quoted word
  | missing path => "there is no file " ++ path.quoted
  | notFile path => path.quoted ++ " is a directory"
  | notDirectory path => path.quoted ++ " is a file"
  | badPath e => e.message

/-- A build that is asked for. -/
structure BuildRequest where
  buildFile : Path
  /-- The directory for the output, if not the one of the build file. -/
  outputDirectory : Option Path
  /-- The resource directory, if not the one of the build file. -/
  resourceDirectory : Option Path
  settings : Console.Settings
  deriving DecidableEq, Repr

/-- What a command line asks for. -/
inductive Request
  | help
  | completion
  /-- Some texts are to be escaped, or the lines of the input if there are none. -/
  | escape (texts : List String)
  | build (r : BuildRequest)
  deriving DecidableEq, Repr

namespace Request

def helpSwitch : Switch := ⟨"help", none, false⟩
def installSwitch : Switch := ⟨"install-completion", none, false⟩
def completionSwitch : Switch := ⟨"show-completion", none, false⟩
def outputSwitch : Switch := ⟨"output-dir", some 'o', true⟩
def resourceSwitch : Switch := ⟨"resource-dir", none, true⟩
def verboseSwitch : Switch := ⟨"verbose", some 'v', false⟩
def debugSwitch : Switch := ⟨"debug", none, false⟩

/-- The options before a command. -/
def commonSwitches : List Switch :=
  [installSwitch, completionSwitch, helpSwitch]

/-- The options of a build. -/
def buildSwitches : List Switch :=
  [outputSwitch, resourceSwitch, verboseSwitch, debugSwitch, helpSwitch]

/-- The path of a build file. -/
def readFile (fs : FileSystem) (word : String) : Except Misuse Path := do
  let p ← (fs.resolve (.ofString word)).mapError .badPath
  match fs.find p with
  | .ok (.file _) => return p
  | .ok .directory => throw (.notFile p)
  | .error _ => throw (.missing p)

/-- The path of a directory. -/
def readDirectory (fs : FileSystem) (word : String) : Except Misuse Path := do
  let p ← (fs.resolve (.ofString word)).mapError .badPath
  match fs.find p with
  | .ok (.file _) => throw (.notDirectory p)
  | _ => return p

/-- The directories that the options give, each with its option. -/
def readDirectories (fs : FileSystem) (a : Arguments) : Except Misuse (List (Switch × Path)) :=
  (a.switches.filter Switch.takesValue).mapM fun s => do
    return (s, ← readDirectory fs ((a.value? s).getD ""))

/-- A build, from what the words after the command say. -/
def readBuild (fs : FileSystem) (a : Arguments) : Except Misuse Request := do
  let directories ← readDirectories fs a
  match a.operands with
  | [] => throw .noBuildFile
  | file :: extra =>
    let buildFile ← readFile fs file
    match extra with
    | word :: _ => throw (.extraOperand word)
    | [] =>
      return .build {
        buildFile
        outputDirectory := directories.lookup outputSwitch
        resourceDirectory := directories.lookup resourceSwitch
        settings := ⟨a.count verboseSwitch, a.has debugSwitch⟩ }

/-- A command, given its options, the words after it, and what is asked for unless
    it is help. -/
def readCommand (switches : List Switch) (words : List String)
    (read : Arguments → Except Misuse Request) : Except Misuse Request :=
  match readWords switches false words with
  | none => .error .badOptions
  | some a => if a.has helpSwitch then .ok .help else read a

/-- What the words of a command line ask for. A word in the place of the command
    that looks like an option is read as one. -/
def ofWords (fs : FileSystem) (words : List String) : Except Misuse Request :=
  match readWords commonSwitches true words with
  | none => .error .badOptions
  | some a =>
    if a.has helpSwitch then .ok .help
    else if a.settings ≠ [] then .ok .completion
    else
      match a.operands with
      | [] => .error .noCommand
      | "build" :: rest => readCommand buildSwitches rest (readBuild fs)
      | "escape" :: rest => readCommand [helpSwitch] rest fun a => .ok (.escape a.operands)
      | word :: rest =>
        match readWords commonSwitches true (word :: rest) with
        | none => .error .badOptions
        | some b => if b.has helpSwitch then .ok .help else .error (.unknownCommand word)

/-- The paths in the words of a command line. -/
def paths (words : List String) : List Path :=
  match readWords commonSwitches true words with
  | some ⟨_, "build" :: rest⟩ =>
    match readWords buildSwitches false rest with
    | some a => (a.operands ++ a.settings.filterMap Setting.value).map .ofString
    | none => []
  | _ => []

end Request

end InstallerKit.CommandLine
