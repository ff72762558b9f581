import InstallerKit.Text.Pieces
import InstallerKit.Text.Utf8

/-!
# Inputs

An input comes in chunks of bytes, and its lines are made use of as they come. A
character that is not complete at the end of a chunk waits for the next one. The
first chunk that cannot be decoded ends the input: what has been decoded before it
stays, and the refusal counts the bytes from those that have waited for it.
-/

namespace InstallerKit.Text

/-- What has been read of an input. -/
structure Input where
  text : List Char
  /-- Why it ended early, if it did. -/
  refusal : Option Utf8.Error
  deriving DecidableEq, Repr

namespace Input

/-- The number of bytes of a chunk, unless it is the last. -/
def chunkSize : Nat := 8192

/-- The chunks of some bytes. The last one may be empty. -/
def chunks (bytes : List UInt8) : List (List UInt8) :=
  (List.range (bytes.length / chunkSize + 1)).map fun i =>
    (bytes.drop (i * chunkSize)).take chunkSize

/-- The characters at the front of some bytes, and the bytes of an incomplete one
    at the end. -/
def split (bytes : List UInt8) : Except Utf8.Error (List Char × List UInt8) :=
  match Utf8.decode bytes with
  | .ok cs => .ok (cs, [])
  | .error e =>
    if e.reason = .ending then
      (Utf8.decode (bytes.take e.first)).map fun cs => (cs, bytes.drop e.first)
    else .error e

/-- Reads chunks, after some bytes that wait for them. -/
def ofChunks : (waiting : List UInt8) → List (List UInt8) → Input
  | waiting, [] =>
    match Utf8.decode waiting with
    | .ok cs => ⟨cs, none⟩
    | .error e => ⟨[], some e⟩
  | waiting, chunk :: rest =>
    match split (waiting ++ chunk) with
    | .ok (cs, waiting) =>
      let later := ofChunks waiting rest
      ⟨cs ++ later.text, later.refusal⟩
    | .error e => ⟨[], some e⟩

/-- Reads an input of some bytes. -/
def ofBytes (bytes : List UInt8) : Input :=
  ofChunks [] (chunks bytes)

/-- The lines of a text. After the last line end, there is another line only if
    there is a text. -/
def textLines (cs : List Char) : List String :=
  let found := lines (.ofList (unifyLineEnds cs))
  if found.getLast? = some "" then found.dropLast else found

/-- The lines of a text of which more was to come. Only those with an end are known,
    and a carriage return at the end may be half of one. -/
def knownLines (cs : List Char) : List String :=
  let settled := if cs.getLast? = some '\r' then cs.dropLast else cs
  (lines (.ofList (unifyLineEnds settled))).dropLast

/-- The lines of an input. -/
def allLines (i : Input) : List String :=
  if i.refusal.isSome then knownLines i.text else textLines i.text

end Input

end InstallerKit.Text
