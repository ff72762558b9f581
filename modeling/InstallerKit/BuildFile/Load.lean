import InstallerKit.BuildFile.Schema
import InstallerKit.Text.Pieces
import InstallerKit.Toml.Document

/-!
# Loading build files

A build file is a UTF-8 text with line ends of any kind, written in TOML. Loading
it answers the content with all paths absolute, or a fault that tells the path and
has the reason for its cause.
-/

namespace InstallerKit.BuildFile

/-- What is said of a text that is no TOML. -/
def notToml : String := "the text is no TOML"

/-- The content of the build file under a path. -/
def read (fs : FileSystem) (path : Path) : Except Fault BuildFile := do
  let bytes ← (fs.read path).mapError fun e =>
    match e with
    | .embeddedNul => .of (.file e)
    | e => .causedBy (.unreadableBuildFile path e) (.of (.file e))
  let text ← (Text.Utf8.decode bytes).mapError fun e =>
    .causedBy (.undecodableBuildFile path e) (.of (.undecodable e))
  let nest ← (Toml.parse (Text.unifyLineEnds text)).mapError fun e =>
    match e with
    | .malformed => .causedBy (.malformedBuildFile path notToml) (.of (.toml notToml))
    | .tooLong digits => .of (.longNumber digits)
    | .tooDeep => .of .deepNesting
  (check (.dict nest)).mapError fun issues =>
    .causedBy (.invalidBuildFile path issues) (.of (.badContent issues))

/-- The content of the build file under a path, with its paths seen from the
    directory of the file. -/
def load (fs : FileSystem) (path : Path) : Except Fault BuildFile := do
  let b ← read fs path
  let base ← (fs.resolve path.parent).mapError fun e => .of (.file e)
  return b.anchor base

end InstallerKit.BuildFile
