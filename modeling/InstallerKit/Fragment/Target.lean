import InstallerKit.FileSystem.Basic

/-!
# Output targets

Where a fragment is written: a directory, and the name of a file in it. The name
must be bare, so that it leads nowhere but into the directory.
-/

namespace InstallerKit.Fragment

/-- A file in a directory. -/
structure Target where
  directory : Path
  fileName : String
  bare : Path.isBareName fileName = true
  deriving DecidableEq, Repr

/-- The name is not bare. -/
structure Target.Error where
  fileName : String
  deriving DecidableEq, Repr

namespace Target

/-- The target of a directory and a name. -/
def of (directory : Path) (fileName : String) : Except Error Target :=
  if h : Path.isBareName fileName = true then .ok ⟨directory, fileName, h⟩
  else .error ⟨fileName⟩

def path (t : Target) : Path :=
  t.directory.child t.fileName

/-- The target with its directory resolved. -/
def resolve (t : Target) (fs : FileSystem) : Except FileSystem.Error Target := do
  return { t with directory := ← fs.resolve t.directory }

end Target

end InstallerKit.Fragment
