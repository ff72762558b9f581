import InstallerKit.Session
import InstallerKit.Text.Occurrence

/-!
# Resources

A resource is a file that comes from one of two sources: a file of the right name
in the *resource directory*, where a user may put one of their own, or a content
that the resource has by *default*. The sources are tried in order, and the first
one that is available is the one that counts, even if it then fails.

On its way to the destination a content may have tokens replaced by values; only
then does it have to be text.
-/

namespace InstallerKit

/-- Where the content of a resource comes from. -/
inductive Resource.Source
  | directory
  | default
  deriving DecidableEq, Repr

/-- A content that a resource has by default. -/
inductive Resource.Content
  | bytes (content : List UInt8)
  /-- Whatever is in a file when the resource is saved. -/
  | file (path : Path)
  /-- What a caller's own code should have given, but fails to. -/
  | failing (f : Fault)
  deriving Repr

/-- A resource. -/
structure Resource where
  content : Option Resource.Content
  /-- The name of the default content in the log. -/
  contentName : Option String
  /-- The resource directory. -/
  directory : Option Path
  /-- The name of the file in the resource directory, if it is not that of the
      destination. -/
  publicName : Option String
  /-- What the resource is called in the log. -/
  category : Option String
  /-- The sources to try, in order. -/
  order : List Resource.Source
  /-- The values of the tokens to replace. -/
  substitutions : Table String
  deriving Repr

namespace Resource

namespace Source

/-- The name of a source. -/
def label : Source → String
  | directory => "resource-dir"
  | default => "default"

/-- The source of a name. -/
def ofLabel (name : String) : Except Problem Source :=
  match [directory, default].find? fun s => s.label = name with
  | some s => .ok s
  | none => .error (.badSource name)

end Source

/-- A resource without default content. -/
def empty : Resource := ⟨none, none, none, none, none, [.directory, .default], .empty⟩

/-- A name, or another one if it is missing or empty. -/
def nameOr (name : Option String) (other : String) : String :=
  match name with
  | some n => if n = "" then other else n
  | none => other

/-- What a resource is called in the log. -/
def title (r : Resource) : String :=
  nameOr r.category "resource"

/-- The file that takes the place of the default content, if it is there. -/
def override? (r : Resource) (fs : FileSystem) (dest : Path) :
    Except FileSystem.Error (Option Path) :=
  match r.directory with
  | none => .ok none
  | some directory => do
    let candidate := directory.child (nameOr r.publicName dest.name)
    return if ← fs.isFile candidate then some candidate else none

/-- The token of a key. -/
def token (key : String) : List Char :=
  '$' :: '\x7b' :: key.toList ++ ['\x7d']

/-- A text with the token of every key replaced, one key after the other. -/
def substitute (table : Table String) (text : List Char) : List Char :=
  table.entries.foldl (fun text (key, value) => Text.replaceAll (token key) value.toList text) text

/-- The content that arrives at the destination. -/
def finish (table : Table String) (content : List UInt8) : Except Problem (List UInt8) :=
  if table.isEmpty then .ok content
  else
    match Text.Utf8.decode content with
    | .ok text => .ok (Text.Utf8.encode (substitute table text))
    | .error e => .error (.undecodable e)

/-- Writes a content to the destination. -/
def write (r : Resource) (dest : Path) (content : List UInt8) : Action Unit := do
  let content ← Action.lift id (finish r.substitutions content)
  Action.makeDirectories dest.parent
  Action.change fun fs => fs.write dest content

/-- The bytes of a default content. -/
def Content.load : Content → Action (List UInt8)
  | .bytes content => pure content
  | .file path => Action.ask fun fs => fs.read path
  | .failing f => throw f

/-- Tries a source. Answers whether it was available. -/
def trySource (r : Resource) (dest : Path) : Source → Action Bool
  | .directory => do
    match ← Action.ask fun fs => r.override? fs dest with
    | none => return false
    | some file =>
      Action.log .info ("Using custom " ++ r.title ++ " [" ++ file.text ++ "]")
      r.write dest (← Action.ask fun fs => fs.read file)
      return true
  | .default => do
    match r.content with
    | none => return false
    | some content =>
      Action.log .info
        ("Using default " ++ r.title ++ " [" ++ nameOr r.contentName dest.name ++ "]")
      r.write dest (← content.load)
      return true

/-- Tries sources in order. Answers which one was available. -/
def saveFrom (r : Resource) (dest : Path) : List Source → Action (Option Source)
  | [] => pure none
  | s :: rest => do
    if ← r.trySource dest s then return some s else saveFrom r dest rest

/-- Saves a resource. Answers which source it came from. -/
def save (r : Resource) (dest : Path) : Action (Option Source) :=
  r.saveFrom dest r.order

end Resource

end InstallerKit
