import InstallerKit.Markup.Script
import InstallerKit.Session

/-!
# Documents

A document is rendered as a whole before anything is saved, so a script that
fails leaves the file system alone. Saving comes in steps: the directories are
made, the file is emptied, the text is encoded, and its bytes are written; a text
that its encoding cannot hold leaves an empty file.
-/

namespace InstallerKit.Document

open Markup (Script)

/-- The indentation of documents. -/
def standardIndent : String := "    "

def standardEncoding : String := "utf-8"

/-- A script with the declaration before it and everything closed after it. -/
def complete (encoding : String) (s : Script) : Script :=
  .andThen (.ofCalls [.startDocument "1.0" encoding]) (.andThen s (.ofCalls [.endDocument]))

/-- The text of the document that a script writes. -/
def render (indent : Option String) (encoding : String) (s : Script) : Except Fault (List Char) :=
  let t := (complete encoding s).run (.fresh indent)
  match t.fault with
  | some f => .error f
  | none => .ok t.text

/-- The bytes of a text in a named encoding. -/
def encode (encoding : String) (text : List Char) : Except Problem (List UInt8) :=
  match Text.Encoding.ofName? encoding with
  | none => .error (.unknownEncoding encoding)
  | some e => (e.encoded text).mapError .unencodable

/-- Saves a text under a path. The file is not even emptied if the name of the encoding
    has a null character. -/
def save (path : Path) (encoding : String) (text : List Char) : Action Unit := do
  Action.makeDirectories path.parent
  if encoding.toList.contains '\x00' then throw (.of .nulInEncoding)
  Action.change fun fs => fs.write path []
  let content ← Action.lift id (encode encoding text)
  Action.change fun fs => fs.write path content

/-- Renders the document of a script and saves it. -/
def create (path : Path) (s : Script) (indent : Option String) (encoding : String) :
    Action Unit := do
  match render indent encoding s with
  | .error f => throw f
  | .ok text =>
    save path encoding text
    Action.log .debug ("Wrote XML document " ++ path.text)

end InstallerKit.Document
