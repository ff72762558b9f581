import InstallerKit.CommandLine.Run

/-!
# The program

A command line is run on a picture of the files that it is about: those that its
words name, and those that the build file names. Whatever the run has changed in
the picture is then changed in the system as well, and what it has to show is
shown.
-/

namespace InstallerKit.Program

open CommandLine (Request)

/-- What the system has at a place. -/
def look (place : String) : IO (Option FileSystem.Entry) := do
  try
    let _ ← IO.FS.realPath (place ++ "/.")
    return some .directory
  catch _ =>
    try
      return some (.file (← IO.FS.readBinFile place).toList)
    catch _ => return none

/-- The name of a place for the system. -/
def placeName (place : List String) : String :=
  (Path.mk .slash place).text

/-- Adds what the system has at the places above some paths, and at their own. -/
def picture (fs : FileSystem) (paths : List Path) : IO FileSystem := do
  let mut fs := fs
  for p in paths do
    match fs.resolve p with
    | .error _ => pure ()
    | .ok resolved =>
      for n in [1 : resolved.names.length + 1] do
        let place := resolved.names.take n
        match ← look (placeName place) with
        | some e => fs := fs.set place e
        | none => pure ()
  return fs

/-- A picture of the files that a command line is about. -/
def pictureFor (words : List String) : IO FileSystem := do
  let start : FileSystem := ⟨[], (Path.ofString (← IO.currentDir).toString).names⟩
  let fs ← picture start (.here :: Request.paths words)
  match Request.ofWords fs words with
  | .ok (.build r) =>
    match BuildFile.load fs r.buildFile with
    | .ok b => picture fs (r.apply b).paths
    | .error _ => return fs
  | _ => return fs

/-- Makes the changes between two pictures. -/
def change (before after : FileSystem) : IO Unit := do
  for (place, e) in after.entries do
    if before.entry place ≠ some e then
      match e with
      | .directory => IO.FS.createDirAll (placeName place)
      | .file content => IO.FS.writeBinFile (placeName place) ⟨content.toArray⟩

/-- Everything that a stream still has. -/
partial def readAll (s : IO.FS.Stream) (before : ByteArray) : IO ByteArray := do
  let chunk ← s.read 65536
  if chunk.isEmpty then return before else readAll s (before ++ chunk)

/-- The input, if a command line makes use of it. -/
def inputFor (fs : FileSystem) (words : List String) : IO (List UInt8) :=
  match Request.ofWords fs words with
  | .ok (.escape []) => do return (← readAll (← IO.getStdin) .empty).toList
  | _ => return []

/-- Runs a command line. Answers the exit code. -/
def run (words : List String) : IO UInt32 := do
  let fs ← pictureFor words
  let outcome := CommandLine.run fs (← inputFor fs words) words
  change fs outcome.files
  IO.print outcome.output
  for line in outcome.errors do
    IO.eprintln line
  return .ofNat outcome.ending.exitCode

end InstallerKit.Program

def main (words : List String) : IO UInt32 :=
  InstallerKit.Program.run words
