/-!
# Encoding one character after another

Most encodings write the characters of a text one after another. What they write for a
character may depend on what has been written before, which they keep in a state, and
on the character after it: some pairs of characters have a code of their own. The
first character without bytes ends it.
-/

namespace InstallerKit.Text.Encoding

/-- The first character without bytes, and those right after it that are refused with
    it. -/
structure Lack where
  position : Nat
  run : List Char
  deriving DecidableEq, Repr

/-- What is written for a character in a state, seeing the next one if there is one:
    the bytes, whether they stand for the next one as well, and the new state. -/
abbrev Step (σ : Type) := σ → Char → Option Char → Option (List UInt8 × Bool × σ)

/-- The bytes of a text from a position on, in a state. If `skip` is true, the first
    character has been written already. -/
def stream {σ : Type} (step : Step σ) :
    (skip : Bool) → (position : Nat) → σ → List Char → Except Lack (List UInt8)
  | _, _, _, [] => .ok []
  | true, position, s, _ :: cs => stream step false (position + 1) s cs
  | false, position, s, c :: cs =>
    match step s c cs.head? with
    | some (bytes, both, s) => (bytes ++ ·) <$> stream step both (position + 1) s cs
    | none => .error ⟨position, [c]⟩

/-- The step of an encoding in which a character always has the same bytes. -/
def fixed (bytes? : Char → Option (List UInt8)) : Step Unit :=
  fun _ c _ => (bytes? c).map fun bytes => (bytes, false, ())

/-- A text in an encoding in which a character always has the same bytes; what has none
    is refused together. -/
def each (bytes? : Char → Option (List UInt8)) (cs : List Char) : Except Lack (List UInt8) :=
  (stream (fixed bytes?) false 0 () cs).mapError fun lack =>
    ⟨lack.position, (cs.drop lack.position).takeWhile fun c => (bytes? c).isNone⟩

/-- Bytes by their numbers. -/
def octets (ns : List Nat) : List UInt8 := ns.map .ofNat

/-- The byte of an ASCII character. -/
def asciiByte? (c : Char) : Option UInt8 :=
  if c.toNat < 0x80 then some (.ofNat c.toNat) else none

end InstallerKit.Text.Encoding
