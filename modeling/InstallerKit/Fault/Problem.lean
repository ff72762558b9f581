import InstallerKit.BuildFile.Issue
import InstallerKit.Compiler
import InstallerKit.Console.Tags
import InstallerKit.Diagnostics
import InstallerKit.Fault.Kind
import InstallerKit.FileSystem.Basic
import InstallerKit.Markup.Error
import InstallerKit.Text.Encoding.Name
import InstallerKit.Variables
import InstallerKit.Version

/-!
# Problems

A problem is what went wrong, without its history: the refusal of one of the
parts of the library, or what a caller's own code reports. It has a kind and a
message.
-/

namespace InstallerKit

/-- What went wrong. -/
inductive Problem
  | markup (e : Markup.Error)
  | badVariable (e : Variables.Error)
  | version (e : Version.Error)
  | file (e : FileSystem.Error)
  | undecodable (e : Text.Utf8.Error)
  | unencodable (e : Text.Encoding.Error)
  | unknownEncoding (name : String)
  /-- The name of an encoding has a null character. -/
  | nulInEncoding
  | namelessPath (e : Compiler.NamelessPath)
  /-- The name of the fragment's file is no bare name. -/
  | badFileName (name : String)
  /-- Not the name of a source of resources. -/
  | badSource (name : String)
  | namelessResource
  /-- A resource could not be saved under a name. Without a message of its own it
      has a default one. -/
  | unsaved (target message : String)
  /-- A builder is used before it is configured. -/
  | unconfigured
  /-- A producer that cannot write, offered to a builder. -/
  | badProducer (kind : String)
  /-- A producer that cannot write, when it should. -/
  | idleProducer (kind : String)
  | unreadableBuildFile (path : Path) (e : FileSystem.Error)
  | undecodableBuildFile (path : Path) (e : Text.Utf8.Error)
  | malformedBuildFile (path : Path) (why : String)
  | invalidBuildFile (path : Path) (issues : List BuildFile.Issue)
  /-- A number of too many digits in a build file. -/
  | longNumber (digits : Nat)
  /-- Too many lists and tables inside each other in a build file. -/
  | deepNesting
  /-- A text that is no TOML. -/
  | toml (why : String)
  /-- The content of a build file breaks its rules. -/
  | badContent (issues : List BuildFile.Issue)
  | uncountable (e : Event.Uncountable)
  | tags (e : Console.TagError)
  /-- A text that is no literal. -/
  | literal (e : Literal.Error)
  /-- Nothing has this name. -/
  | missingKey (name : String)
  | emptyStack
  /-- There is no console state yet. -/
  | noState
  /-- What a caller's own code reports. -/
  | reported (kind : Fault.Kind) (message : String)
  deriving Repr

namespace Problem

/-- The kind of a file system's refusal. -/
def fileKind : FileSystem.Error → Fault.Kind
  | .refused .missing _ => .missingFile
  | .refused .exists _ => .existingFile
  | .refused .notDirectory _ => .notDirectory
  | .refused .isDirectory _ => .isDirectory
  | .refused .nameTooLong _ => .system
  | .embeddedNul => .value

/-- The kind of an encoding's refusal. -/
def encodingKind : Text.Encoding.Refusal → Fault.Kind
  | .lack _ => .encoding
  | .label _ => .unicode
  | .undefined => .unicode

/-- The kind of a fault in tags. -/
def tagKind : Console.TagError → Fault.Kind
  | .badStyle _ => .value
  | _ => .tags

/-- The kind of a text that is no literal. -/
def literalKind : Literal.Error → Fault.Kind
  | .form .indented _ | .form .unevenIndent _ => .indentation
  | .form .mixedIndent _ => .tabs
  | .form _ _ => .form
  | .nullCharacter => .value
  | .tooDeep => .memory
  | .deepExpression => .nesting
  | .hugeNumber => .overflow
  | .value _ => .value
  | .unpacked => .value
  | .changeable _ => .type

/-- The kind of a problem. -/
def kind : Problem → Fault.Kind
  | markup e => if e.isMismatch then .type else .markup
  | badVariable (.badName) => .value
  | badVariable _ => .type
  | version _ => .value
  | file e => fileKind e
  | undecodable _ => .decoding
  | unencodable e => encodingKind e.refusal
  | unknownEncoding _ => .lookup
  | nulInEncoding => .value
  | namelessPath _ => .value
  | badFileName _ => .value
  | badSource _ => .value
  | namelessResource => .value
  | unsaved _ _ => .resource
  | unconfigured => .buildState
  | badProducer _ => .type
  | idleProducer _ => .type
  | unreadableBuildFile _ _ => .buildFile
  | undecodableBuildFile _ _ => .buildFile
  | malformedBuildFile _ _ => .buildFile
  | invalidBuildFile _ _ => .buildFile
  | longNumber _ => .value
  | deepNesting => .nesting
  | toml _ => .toml
  | badContent _ => .validation
  | uncountable _ => .type
  | tags e => tagKind e
  | literal e => literalKind e
  | missingKey _ => .key
  | emptyStack => .index
  | noState => .runtime
  | reported kind _ => kind

/-- What a problem says. -/
def message : Problem → String
  | markup e => e.message
  | badVariable e => e.message
  | version e => e.message
  | file e => e.message
  | undecodable e => e.message
  | unencodable e => e.message
  | unknownEncoding name => "unknown encoding: " ++ name
  | nulInEncoding => "embedded null character"
  | namelessPath e => e.message
  | badFileName name => "Output file name must be a bare file name: " ++ Text.quoted name
  | badSource name => Text.quoted name ++ " is not a valid ResourceSource"
  | namelessResource => "Resources require a non-empty target file name."
  | unsaved target message =>
    if message = "" then "Failed to save resource '" ++ target ++ "'" else message
  | unconfigured => "The fragment builder must be configured before building."
  | badProducer kind => "Fragment producers must be callable, got " ++ kind ++ "."
  | idleProducer kind => "'" ++ kind ++ "' object is not callable"
  | unreadableBuildFile path e =>
    "Failed to read build file " ++ path.text ++ ": " ++ e.message
  | undecodableBuildFile path e =>
    "Invalid build file " ++ path.text ++ ": not valid UTF-8 (" ++ e.message ++ ")"
  | malformedBuildFile path why => "Invalid build file " ++ path.text ++ ": " ++ why
  | invalidBuildFile path issues =>
    "Invalid build file " ++ path.text ++ ": " ++ BuildFile.Issue.report issues
  | longNumber digits => Text.tooManyDigits digits
  | deepNesting => "maximum recursion depth exceeded"
  | toml why => why
  | badContent issues => BuildFile.Issue.report issues
  | uncountable e => e.message
  | tags e => e.message
  | literal e => e.report
  | missingKey name => Text.quoted name
  | emptyStack => "pop from empty list"
  | noState => "CLI state is not initialised for this context."
  | reported _ message => message

end Problem

end InstallerKit
