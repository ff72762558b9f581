import InstallerKit.Fragment.Builder

/-!
# Build files

A build file says everything that a build needs: where the output goes, the
version, the variables, the resources and the fragments. Its relative paths are
meant from the directory that holds it; `anchor` makes them say so. A builder is
then made of it in one go.
-/

namespace InstallerKit

open Markup (Element)

/-- A resource in a build file. Of a source and a text it has one at most. -/
structure BuildFile.Item where
  name : String
  /-- The file with the default content. -/
  source : Option Path
  /-- The default content. -/
  text : Option String
  publicName : Option String
  substitutions : Table String

/-- The content of a build file. -/
structure BuildFile where
  outputDirectory : Path
  outputFile : String
  resourceDirectory : Option Path
  version : Option String
  defines : List String
  vars : Table String
  resources : List BuildFile.Item
  fragments : List (List Element)
  bare : Path.isBareName outputFile = true

namespace BuildFile

/-- The item with its source seen from a directory. -/
def Item.anchor (base : Path) (i : Item) : Item :=
  { i with source := i.source.map (Path.anchor base) }

/-- The build file with its relative paths seen from a directory. -/
def anchor (base : Path) (b : BuildFile) : BuildFile :=
  { b with
    outputDirectory := Path.anchor base b.outputDirectory
    resourceDirectory := b.resourceDirectory.map (Path.anchor base)
    resources := b.resources.map (Item.anchor base) }

/-- Where the fragment goes. -/
def target (b : BuildFile) : Fragment.Target :=
  ⟨b.outputDirectory, b.outputFile, b.bare⟩

/-- The resource that an item describes. -/
def Item.toResource (directory : Option Path) (i : Item) : Resource :=
  { Resource.empty with
    content :=
      match i.source, i.text with
      | some path, _ => some (.file path)
      | none, some text => some (.bytes (Text.Utf8.encode text.toList))
      | none, none => none
    contentName :=
      match i.source, i.text with
      | some path, _ => some path.name
      | none, some _ => some i.name
      | none, none => none
    directory
    publicName := i.publicName
    category := some "resource"
    substitutions := i.substitutions }

/-- The producers of the fragments. -/
def producers (b : BuildFile) : List Fragment.Producer :=
  b.fragments.map .elements

/-- The builder of a version, before it is configured. -/
def newBuilder (b : BuildFile) (delivery : Event → Option Fault) :
    Except Problem Fragment.Builder := do
  let version ← (b.version.mapM Version.parse).mapError .version
  return { Fragment.Builder.new b.producers version with delivery }

/-- The paths that a build may read or write, apart from the directories above
    them. -/
def paths (b : BuildFile) : List Path :=
  let saved := b.target.path :: b.resources.map fun i => b.outputDirectory.child i.name
  let names := b.outputFile ::
    b.resources.map fun i => Resource.nameOr i.publicName (Path.ofString i.name).name
  saved ++ b.resources.filterMap Item.source ++
    match b.resourceDirectory with
    | some directory => names.map directory.child
    | none => []

/-- A change that failed, or the builder after it. -/
def checked : Fragment.Builder × Option Problem → Except Problem Fragment.Builder
  | (b, none) => .ok b
  | (_, some p) => .error p

/-- The configured builder that a build file describes. -/
def toBuilder (b : BuildFile) (fs : FileSystem) (delivery : Event → Option Fault) :
    Except Problem Fragment.Builder := do
  let builder ← b.newBuilder delivery
  let builder ← checked (builder.configure fs b.target b.resourceDirectory)
  let builder ← b.defines.foldlM (fun builder name => builder.defineVariable name) builder
  let builder ← b.vars.entries.foldlM
    (fun builder (name, value) => builder.setVariable name value) builder
  b.resources.foldlM
    (fun builder i =>
      checked (builder.addResource (.resource (i.toResource b.resourceDirectory)) i.name))
    builder

end BuildFile

end InstallerKit
