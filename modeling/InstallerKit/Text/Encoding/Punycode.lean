import InstallerKit.Text.Encoding.Stream

/-!
# Punycode

An encoding in ASCII letters and digits. The ASCII characters of a text come first, and
a hyphen after them; then, in the order of their numbers, each of the others by the
distance that a marker moves through all texts that could arise: digits of base 36,
whose thresholds adapt to the distances before.
-/

namespace InstallerKit.Text.Encoding

namespace Punycode

/-- The digit of a number below 36. -/
def digit (n : Nat) : Char :=
  if n < 26 then .ofNat (97 + n) else .ofNat (22 + n)

/-- The threshold of the digit for the weight that comes at `k`. -/
def threshold (k bias : Nat) : Nat :=
  max 1 (min 26 (k - bias))

/-- The digits of a distance, of at most `fuel` after the first. -/
def distance (bias : Nat) : (fuel : Nat) → (k n : Nat) → List Char
  | 0, _, _ => []
  | fuel + 1, k, n =>
    let t := threshold k bias
    if n < t then [digit n]
    else digit (t + (n - t) % (36 - t)) :: distance bias fuel (k + 36) ((n - t) / (36 - t))

/-- How often a distance is divided until it is small, and what is left, in at most
    `fuel` steps. -/
def shrink : (fuel : Nat) → Nat → Nat × Nat
  | 0, n => (0, n)
  | fuel + 1, n =>
    if n ≤ 455 then (0, n)
    else
      let (k, rest) := shrink fuel (n / 35)
      (k + 36, rest)

/-- The bias after a distance, when there are `count` characters. -/
def adapt (n count : Nat) (first : Bool) : Nat :=
  let n := if first then n / 700 else n / 2
  let n := n + n / count
  let (k, rest) := shrink n n
  k + 36 * rest / (rest + 38)

/-- What has been written, and where the marker is. -/
structure State where
  written : List Char
  distance : Nat
  bias : Nat
  /-- The number of characters written. -/
  count : Nat

/-- Passes a character of the text while those with the number `n` are written. There
    are `basic` ASCII characters. -/
def pass (basic n : Nat) (s : State) (c : Char) : State :=
  if c.toNat < n then { s with distance := s.distance + 1 }
  else if c.toNat = n then
    { written := s.written ++ Punycode.distance s.bias (s.distance + 1) 36 s.distance
      distance := 0
      bias := adapt s.distance (s.count + 1) (s.count = basic)
      count := s.count + 1 }
  else s

/-- Writes the characters with some numbers, which ascend from `n`. -/
def write (cs : List Char) (basic : Nat) : (n : Nat) → List Nat → State → State
  | _, [], s => s
  | n, m :: rest, s =>
    let s := { s with distance := s.distance + (m - n) * (s.count + 1) }
    let s := cs.foldl (pass basic m) s
    write cs basic (m + 1) rest { s with distance := s.distance + 1 }

/-- A text in letters and digits. -/
def encode (cs : List Char) : List Char :=
  let basic := cs.filter fun c => c.toNat < 0x80
  let others := (cs.filter fun c => 0x80 ≤ c.toNat).map Char.toNat
  let numbers := (others.mergeSort (· ≤ ·)).eraseDups
  let s := write cs basic.length 0x80 numbers ⟨[], 0, 72, basic.length⟩
  basic ++ (if basic = [] then [] else ['-']) ++ s.written

end Punycode

end InstallerKit.Text.Encoding
