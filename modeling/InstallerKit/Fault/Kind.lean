/-!
# Kinds of faults

Every fault is of a kind, which is reported by its name. Callers that deal with
faults tell three families of kinds apart: those of a build, those of the system,
and those of a value. The families overlap: a resource that cannot be saved is a
fault of the build and of the system.
-/

namespace InstallerKit.Fault

/-- The kind of a fault. -/
inductive Kind
  | build
  | markup
  | buildState
  | buildFile
  | resource
  | runtime
  | value
  | type
  | system
  | permission
  | missingFile
  | existingFile
  | notDirectory
  | isDirectory
  | lookup
  | key
  | index
  /-- A text that an encoding refuses as a whole. -/
  | unicode
  /-- A character without bytes in an encoding. -/
  | encoding
  | decoding
  | toml
  | validation
  /-- Tags in a console message that do not match. -/
  | tags
  /-- A text of the wrong form. -/
  | form
  | indentation
  | tabs
  /-- Too many things inside each other. -/
  | nesting
  /-- More than there is room for. -/
  | memory
  | overflow
  deriving DecidableEq, Repr

namespace Kind

/-- The name of a kind. -/
def label : Kind → String
  | build => "WixBuildError"
  | markup => "MarkupError"
  | buildState => "BuildStateError"
  | buildFile => "ConfigError"
  | resource => "ResourceMaterializationError"
  | runtime => "RuntimeError"
  | value => "ValueError"
  | type => "TypeError"
  | system => "OSError"
  | permission => "PermissionError"
  | missingFile => "FileNotFoundError"
  | existingFile => "FileExistsError"
  | notDirectory => "NotADirectoryError"
  | isDirectory => "IsADirectoryError"
  | lookup => "LookupError"
  | key => "KeyError"
  | index => "IndexError"
  | unicode => "UnicodeError"
  | encoding => "UnicodeEncodeError"
  | decoding => "UnicodeDecodeError"
  | toml => "TOMLDecodeError"
  | validation => "ValidationError"
  | tags => "MarkupError"
  | form => "SyntaxError"
  | indentation => "IndentationError"
  | tabs => "TabError"
  | nesting => "RecursionError"
  | memory => "MemoryError"
  | overflow => "OverflowError"

/-- The kinds that a caller's own faults may be of. -/
def reportable : List Kind :=
  [build, markup, buildState, buildFile, value, runtime, system, permission, missingFile, type]

/-- The kind with a name, among those of a caller's own faults. -/
def ofLabel? (s : String) : Option Kind :=
  reportable.find? fun k => k.label = s

/-- The faults of a build. -/
def isBuild (k : Kind) : Bool :=
  k ∈ [build, markup, buildState, buildFile, resource]

/-- The faults of the system. -/
def isSystem (k : Kind) : Bool :=
  k ∈ [resource, system, permission, missingFile, existingFile, notDirectory, isDirectory]

/-- The faults of a value. -/
def isValue (k : Kind) : Bool :=
  k ∈ [value, unicode, encoding, decoding, toml, validation]

end Kind

end InstallerKit.Fault
