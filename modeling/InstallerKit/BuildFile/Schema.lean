import InstallerKit.BuildFile.Basic

/-!
# The schema of build files

Reads the content of a build file off a datum. Nothing is converted: only a text
is a text. All issues are reported: those of the known keys, in the order of the
schema, then the unknown keys; in lists and tables, in their order. A rule that
takes several keys together is looked at only when there is no other issue. Elements
may be nested, but not without end: what is too deep is not looked at.
-/

namespace InstallerKit.BuildFile

open Markup (Element)

/-- The place of a datum in the content. -/
abbrev Location := List Step

/-- Something read off a datum, or the issues with it. -/
abbrev Checked (α : Type) := Except (List Issue) α

namespace Checked

/-- The issues, if any. -/
def issues {α : Type} : Checked α → List Issue
  | .ok _ => []
  | .error is => is

/-- A single issue. -/
def refuse {α : Type} (place : Location) (c : Complaint) : Checked α :=
  .error [⟨place, c⟩]

/-- Two results together, with the issues of both. -/
def both {α β : Type} (x : Checked α) (y : Checked β) : Checked (α × β) :=
  match x, y with
  | .ok a, .ok b => .ok (a, b)
  | x, y => .error (x.issues ++ y.issues)

/-- Looks at the members of a list in order. -/
def each {α β : Type} (check : Nat → α → Checked β) : (first : Nat) → List α → Checked (List β)
  | _, [] => .ok []
  | i, a :: rest => (both (check i a) (each check (i + 1) rest)).map fun (b, bs) => b :: bs

end Checked

open Checked

/-- A text. -/
def checkText (place : Location) : Datum → Checked String
  | .text s => .ok s
  | _ => refuse place .notText

/-- A path. -/
def checkPath (place : Location) : Datum → Checked Path
  | .text s => .ok (.ofString s)
  | _ => refuse place .notPath

/-- Something that may be absent. -/
def checkOptional {α : Type} (check : Location → Datum → Checked α) (place : Location) :
    Datum → Checked (Option α)
  | .null => .ok none
  | d => (check place d).map some

/-- A list. -/
def checkList {α : Type} (check : Location → Datum → Checked α) (place : Location) :
    Datum → Checked (List α)
  | .list items => each (fun i d => check (place ++ [.index i]) d) 0 items
  | _ => refuse place .notList

/-- A table of texts. -/
def checkTexts (place : Location) : Datum → Checked (Table String)
  | .dict entries =>
    (each (fun _ (k, d) => (checkText (place ++ [.key k]) d).map fun s => (k, s)) 0 entries).map
      .ofList
  | _ => refuse place .notTable

/-- The value of a key, or another one if the key is missing. -/
def field {α : Type} (check : Location → Datum → Checked α) (place : Location)
    (entries : List (String × Datum)) (key : String) (other : Checked α) : Checked α :=
  match entries.lookup key with
  | some d => check (place ++ [.key key]) d
  | none => other

/-- The value of a key that must not be missing. -/
def required {α : Type} (check : Location → Datum → Checked α) (place : Location)
    (entries : List (String × Datum)) (key : String) : Checked α :=
  field check place entries key (refuse (place ++ [.key key]) .missing)

/-- Complains of the keys that do not belong to a table. -/
def noOthers (place : Location) (known : List String) (entries : List (String × Datum)) :
    Checked Unit :=
  match entries.filter fun (k, _) => !known.contains k with
  | [] => .ok ()
  | others => .error (others.map fun (k, _) => ⟨place ++ [.key k], .unknown⟩)

/-- How many elements may be inside each other. -/
def maxDepth : Nat := 254

mutual

/-- An element, inside of which there is room for `depth` others less one. -/
def checkElement (depth : Nat) (place : Location) (d : Datum) : Checked Element :=
  if depth = 0 then refuse place .tooDeep
  else
    match d with
    | .dict entries =>
      let name := required checkText place entries "name"
      let attributes := field checkTexts place entries "attributes" (.ok .empty)
      let text := field (checkOptional checkText) place entries "text" (.ok none)
      let children := checkChildrenIn (depth - 1) place entries
      let others := noOthers place ["name", "attributes", "text", "children"] entries
      (both name (both attributes (both text (both children others)))).map
        fun (name, attributes, text, children, _) => ⟨name, attributes, text, children⟩
    | _ => refuse place .notModel

/-- The children of an element among its entries. -/
def checkChildrenIn (depth : Nat) (place : Location) :
    List (String × Datum) → Checked (List Element)
  | [] => .ok []
  | (k, d) :: rest =>
    if k = "children" then checkElements depth (place ++ [.key "children"]) d
    else checkChildrenIn depth place rest

/-- A list of elements. -/
def checkElements (depth : Nat) (place : Location) : Datum → Checked (List Element)
  | .list items => checkElementItems depth place 0 items
  | _ => refuse place .notList

/-- The members of a list of elements, from a number on. -/
def checkElementItems (depth : Nat) (place : Location) (i : Nat) :
    List Datum → Checked (List Element)
  | [] => .ok []
  | d :: rest =>
    (both (checkElement depth (place ++ [.index i]) d)
      (checkElementItems depth place (i + 1) rest)).map fun (e, es) => e :: es

end

/-- A fragment. -/
def checkFragment (place : Location) : Datum → Checked (List Element)
  | .dict entries =>
    (both (field (checkElements maxDepth) place entries "elements" (.ok []))
      (noOthers place ["elements"] entries)).map Prod.fst
  | _ => refuse place .notModel

/-- An item does not have two default contents. -/
def checkContents (place : Location) (i : Item) : Checked Item :=
  if i.source.isSome && i.text.isSome then
    refuse place (.invalid ("Resource '" ++ i.name ++ "' cannot define both 'source' and 'text'."))
  else .ok i

/-- A resource. -/
def checkItem (place : Location) : Datum → Checked Item
  | .dict entries => do
    let name := required checkText place entries "name"
    let source := field (checkOptional checkPath) place entries "source" (.ok none)
    let text := field (checkOptional checkText) place entries "text" (.ok none)
    let publicName := field (checkOptional checkText) place entries "public_name" (.ok none)
    let substitutions := field checkTexts place entries "substitutions" (.ok .empty)
    let others :=
      noOthers place ["name", "source", "text", "public_name", "substitutions"] entries
    let (name, source, text, publicName, substitutions, _) ←
      both name (both source (both text (both publicName (both substitutions others))))
    checkContents place ⟨name, source, text, publicName, substitutions⟩
  | _ => refuse place .notModel

/-- The name of a file without anything that leads elsewhere. -/
def checkBareName (place : Location) (d : Datum) :
    Checked { s : String // Path.isBareName s = true } := do
  let s ← checkText place d
  if h : Path.isBareName s = true then return ⟨s, h⟩
  else refuse place (.invalid "output_file must be a bare file name")

/-- The name of the output file, if none is given. -/
def defaultOutputFile : { s : String // Path.isBareName s = true } := ⟨"main.wxs", by decide⟩

/-- The content of a build file. -/
def check : Datum → Checked BuildFile
  | .dict entries => do
    let outputDirectory := field checkPath [] entries "output_dir" (.ok (.ofString "build"))
    let outputFile := field checkBareName [] entries "output_file" (.ok defaultOutputFile)
    let resourceDirectory := field (checkOptional checkPath) [] entries "resource_dir" (.ok none)
    let version := field (checkOptional checkText) [] entries "wix_version" (.ok none)
    let defines := field (checkList checkText) [] entries "defines" (.ok [])
    let vars := field checkTexts [] entries "variables" (.ok .empty)
    let resources := field (checkList checkItem) [] entries "resources" (.ok [])
    let fragments := field (checkList checkFragment) [] entries "fragments" (.ok [])
    let others := noOthers [] ["output_dir", "output_file", "resource_dir", "wix_version",
      "defines", "variables", "resources", "fragments"] entries
    let (outputDirectory, outputFile, resourceDirectory, version, defines, vars, resources,
        fragments, _) ←
      both outputDirectory (both outputFile (both resourceDirectory (both version (both defines
        (both vars (both resources (both fragments others)))))))
    return ⟨outputDirectory, outputFile.val, resourceDirectory, version, defines, vars,
      resources, fragments, outputFile.property⟩
  | _ => refuse [] .notModel

end InstallerKit.BuildFile
