import InstallerKit.Path
import InstallerKit.Table
import InstallerKit.Text.Utf8

/-!
# File systems

A file system is a table of what is found at which *place*, a place being the
names that lead there from the root. It knows neither links nor permissions. A
path is followed from the root or from the working directory, name by name:
every place on the way has to be a directory, and two full stops lead from a
directory back to the one that holds it.

* `entry_set`: what is found after something has been put at a place.
-/

namespace InstallerKit

/-- What is found at a place. -/
inductive FileSystem.Entry
  | directory
  | file (content : List UInt8)
  deriving DecidableEq, Repr

/-- What is found where. The root is always a directory. -/
structure FileSystem where
  entries : List (List String × FileSystem.Entry)
  /-- The place where relative paths start. -/
  workingDirectory : List String
  deriving DecidableEq, Repr

namespace FileSystem

/-- Why a path cannot be used. -/
inductive Reason
  | missing
  | exists
  | notDirectory
  | isDirectory
  | nameTooLong
  deriving DecidableEq, Repr

/-- The number by which systems know a reason. -/
def Reason.code : Reason → Nat
  | missing => 2
  | .exists => 17
  | notDirectory => 20
  | isDirectory => 21
  | nameTooLong => 36

def Reason.description : Reason → String
  | missing => "No such file or directory"
  | .exists => "File exists"
  | notDirectory => "Not a directory"
  | isDirectory => "Is a directory"
  | nameTooLong => "File name too long"

/-- The refusal of a path. -/
inductive Error
  | refused (reason : Reason) (path : Path)
  /-- A path with a character that no path has. -/
  | embeddedNul
  deriving DecidableEq, Repr

def Error.message : Error → String
  | refused reason path =>
    "[Errno " ++ toString reason.code ++ "] " ++ reason.description ++ ": " ++ path.quoted
  | embeddedNul => "embedded null byte"

/-- A refusal, and the refusals that were being dealt with when it came, the
    latest one first. -/
structure Failure where
  error : Error
  during : List Error
  deriving DecidableEq, Repr

/-- What is found at a place. -/
def entry (fs : FileSystem) (place : List String) : Option Entry :=
  if place = [] then some .directory else fs.entries.lookup place

/-- A file system with nothing but a working directory at a place below the root, and the
    directories on the way there. -/
def withDirectory (place : List String) : FileSystem :=
  ⟨(List.range place.length).map fun n => (place.take (n + 1), .directory), place⟩

/-- What is found below the working directory, each with the path from there. -/
def below (fs : FileSystem) : List (String × Entry) :=
  fs.entries.filterMap fun (place, e) =>
    if fs.workingDirectory.isPrefixOf place && place ≠ fs.workingDirectory then
      some ("/".intercalate (place.drop fs.workingDirectory.length), e)
    else none

/-- What is found below the working directory in the order of the paths, those of
    directories ending in a slash, and the contents of files. -/
def listing (fs : FileSystem) : List (String × Option (List UInt8)) :=
  (fs.below.map fun
    | (path, .directory) => (path ++ "/", none)
    | (path, .file content) => (path, some content)).mergeSort fun a b => decide (a.1 ≤ b.1)

/-- Puts something at a place. -/
def set (fs : FileSystem) (place : List String) (e : Entry) : FileSystem :=
  { fs with entries := Table.put place e fs.entries }

theorem entry_set (fs : FileSystem) {place : List String} (h : place ≠ []) (e : Entry)
    (other : List String) :
    (fs.set place e).entry other = if other = place then some e else fs.entry other := by
  simp only [entry, set, Table.lookup_put]
  by_cases ho : other = []
  · subst ho
    simp [Ne.symm h]
  · simp [ho]

/-- The greatest number of bytes in a name. -/
def maxNameBytes : Nat := 255

/-- From a place that has to be a directory, to the place of a name in it, where
    there may be nothing. -/
def step (fs : FileSystem) (place : List String) (name : String) : Except Reason (List String) :=
  match fs.entry place with
  | none => .error .missing
  | some (.file _) => .error .notDirectory
  | some .directory =>
    if name = ".." then .ok place.dropLast
    else if maxNameBytes < (Text.Utf8.encode name.toList).length then .error .nameTooLong
    else .ok (place ++ [name])

/-- The place where a path starts. -/
def start (fs : FileSystem) (p : Path) : List String :=
  if p.isAbsolute then [] else fs.workingDirectory

/-- The place that a path leads to. -/
def locate (fs : FileSystem) (p : Path) : Except Error (List String) :=
  if p.names.any (·.toList.contains '\x00') then .error .embeddedNul
  else
    match p.names.foldlM fs.step (fs.start p) with
    | .ok place => .ok place
    | .error reason => .error (.refused reason p)

/-- What a path leads to. -/
def find (fs : FileSystem) (p : Path) : Except Error Entry := do
  match fs.entry (← fs.locate p) with
  | some e => .ok e
  | none => .error (.refused .missing p)

/-- What a path leads to, if anything. It is an error to ask with a name that
    is too long, but not with a path that leads nowhere. -/
def find? (fs : FileSystem) (p : Path) : Except Error (Option Entry) :=
  match fs.find p with
  | .ok e => .ok (some e)
  | .error (.refused .nameTooLong q) => .error (.refused .nameTooLong q)
  | .error _ => .ok none

/-- Whether a path leads to a file. -/
def isFile (fs : FileSystem) (p : Path) : Except Error Bool := do
  match ← fs.find? p with
  | some (.file _) => return true
  | _ => return false

/-- Whether a path leads to a directory. -/
def isDirectory (fs : FileSystem) (p : Path) : Except Error Bool := do
  match ← fs.find? p with
  | some .directory => return true
  | _ => return false

/-- The content of the file that a path leads to. -/
def read (fs : FileSystem) (p : Path) : Except Error (List UInt8) := do
  match ← fs.find p with
  | .file content => .ok content
  | .directory => .error (.refused .isDirectory p)

/-- Gives the file that a path leads to a content. The file need not be there,
    but its directory has to. -/
def write (fs : FileSystem) (p : Path) (content : List UInt8) : Except Error FileSystem := do
  let place ← fs.locate p
  match fs.entry place with
  | some .directory => .error (.refused .isDirectory p)
  | _ => .ok (fs.set place (.file content))

/-- The path with full stops and steps back resolved by their meaning alone,
    from the root on. -/
def resolve (fs : FileSystem) (p : Path) : Except Error Path :=
  if p.names.any (·.toList.contains '\x00') then .error .embeddedNul
  else
    .ok <| .mk .slash <| p.names.foldl
      (fun place name => if name = ".." then place.dropLast else place ++ [name]) (fs.start p)

/-- Makes a directory where nothing is. -/
def makeDirectory (fs : FileSystem) (p : Path) : Except Error FileSystem := do
  let place ← fs.locate p
  match fs.entry place with
  | some _ => .error (.refused .exists p)
  | none => .ok (fs.set place .directory)

/-- Makes a directory, unless it is there. Where something is in the way, it
    matters only whether that is a directory. `during` are the refusals that
    are being dealt with. -/
def ensureDirectory (fs : FileSystem) (p : Path) (during : List Error) :
    FileSystem × Option Failure :=
  match fs.makeDirectory p with
  | .ok made => (made, none)
  | .error (.refused .missing q) => (fs, some ⟨.refused .missing q, during⟩)
  | .error .embeddedNul => (fs, some ⟨.embeddedNul, during⟩)
  | .error e =>
    match fs.isDirectory p with
    | .ok true => (fs, none)
    | .ok false => (fs, some ⟨e, during⟩)
    | .error other => (fs, some ⟨other, e :: during⟩)

/-- Makes a directory, unless it is there, after those above it that are
    missing; there are at most `above` of them. -/
def makeDirectoriesFrom (fs : FileSystem) (p : Path) (during : List Error) :
    (above : Nat) → FileSystem × Option Failure
  | 0 => fs.ensureDirectory p during
  | above + 1 =>
    match fs.makeDirectory p with
    | .error (.refused .missing q) =>
      let during := .refused .missing q :: during
      match fs.makeDirectoriesFrom p.parent during above with
      | (made, none) => made.ensureDirectory p during
      | failed => failed
    | _ => fs.ensureDirectory p during

/-- Makes a directory, unless it is there, along with those above it that are
    missing. What has been made before a failure stays. -/
def makeDirectories (fs : FileSystem) (p : Path) : FileSystem × Option Failure :=
  fs.makeDirectoriesFrom p [] p.names.length

/-- Puts a file at a path along with the directories above it; or a directory, if the
    path ends in a slash. What cannot be put there is left out. -/
def place (fs : FileSystem) (path : String) (content : List UInt8) : FileSystem :=
  let p := Path.ofString path
  if path.endsWith "/" then (fs.makeDirectories p).1
  else
    let fs := (fs.makeDirectories p.parent).1
    (fs.write p content).toOption.getD fs

end FileSystem

end InstallerKit
