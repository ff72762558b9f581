/-!
# Real numbers by their shortest decimals

A real number arrives as a decimal and is kept to double precision: 53
significant bits, powers of two from -1074 on. It is printed by the shortest
decimal that still denotes the same double, and among those by the nearest one;
of two equally near ones the last digit is even. A zero has a sign, too.

The computation is exact. A decimal is a fraction of natural numbers; the
nearest double is a natural number `significand` times a power of two, and a
decimal denotes that double if it lies in the interval of the numbers that round
to it, which has its ends half a step away.

* Positional notation is used from `1e-4` up to, and without, `1e16`; a whole
  number then ends in `.0`.
* Other numbers have an exponent with a sign and at least two digits.
-/

namespace InstallerKit

/-- The number `digits / 10 ^ places`, or the negative one. -/
structure Decimal where
  negative : Bool
  digits : Nat
  places : Nat
  deriving DecidableEq, Repr, Inhabited

namespace Decimal

/-- The number that a row of decimal digits denotes. -/
def naturalOf (cs : List Char) : Nat :=
  cs.foldl (fun n c => 10 * n + (c.toNat - '0'.toNat)) 0

/-- A numeral with its sign taken off, and whether that was a hyphen. -/
def unsigned : List Char → Bool × List Char
  | '-' :: cs => (true, cs)
  | '+' :: cs => (false, cs)
  | cs => (false, cs)

/-- The number that a numeral denotes: digits, perhaps with a point among them, and
    perhaps a power of ten after a letter. A power is cut where no double can tell. -/
def ofNumeral (cs : List Char) : Decimal :=
  let (negative, cs) := unsigned cs
  let whole := cs.takeWhile Char.isDigit
  let cs := cs.drop whole.length
  let part := if cs.head? = some '.' then (cs.drop 1).takeWhile Char.isDigit else []
  let (smaller, exponent) := unsigned ((cs.dropWhile fun c => !c.isAlpha).drop 1)
  let digits := naturalOf (whole ++ part)
  let shift := min (naturalOf exponent) (whole.length + part.length + 400)
  if smaller then ⟨negative, digits, part.length + shift⟩
  else ⟨negative, digits * Nat.pow 10 (shift - part.length), part.length - shift⟩

/-- A positive fraction. -/
structure Fraction where
  num : Nat
  den : Nat
  deriving DecidableEq, Repr

namespace Fraction

/-- The fraction times `b ^ e`. -/
def scale (x : Fraction) (b : Nat) (e : Int) : Fraction :=
  if 0 ≤ e then ⟨x.num * b.pow e.toNat, x.den⟩ else ⟨x.num, x.den * b.pow (-e).toNat⟩

def le (x y : Fraction) : Bool :=
  x.num * y.den ≤ y.num * x.den

def lt (x y : Fraction) : Bool :=
  x.num * y.den < y.num * x.den

/-- The nearest natural number, the even one of two. -/
def round (x : Fraction) : Nat :=
  let q := x.num / x.den
  let r := x.num % x.den
  if 2 * r < x.den then q else if 2 * r = x.den then q + q % 2 else q + 1

/-- The greatest `e` with `b ^ e ≤ x`. The quotient of the lengths of numerator
    and denominator is at most one off. -/
def log (b : Nat) (x : Fraction) : Int :=
  let guess : Int := (Nat.toDigits b x.num).length - (Nat.toDigits b x.den).length
  if le ⟨1, 1⟩ (x.scale b (-guess)) then guess else guess - 1

end Fraction

/-- The double `significand * 2 ^ power`. -/
structure Double where
  significand : Nat
  power : Int
  deriving DecidableEq, Repr

namespace Double

/-- The first of the 53 bits of a significand. -/
def leadingBit : Nat := Nat.pow 2 52

/-- The nearest double to a positive fraction. -/
def nearest (x : Fraction) : Double :=
  let power := max (x.log 2 - 52) (-1074)
  let n := (x.scale 2 (-power)).round
  if n = 2 * leadingBit then ⟨leadingBit, power + 1⟩ else ⟨n, power⟩

def value (d : Double) : Fraction :=
  Fraction.scale ⟨d.significand, 1⟩ 2 d.power

/-- Whether the fraction rounds to the double. Below a power of two the step is
    half as wide. -/
def denotedBy (d : Double) (x : Fraction) : Bool :=
  let quarters (n : Nat) : Fraction := Fraction.scale ⟨n, 4⟩ 2 d.power
  let low := quarters (4 * d.significand -
    (if d.significand = leadingBit ∧ d.power > -1074 then 1 else 2))
  let high := quarters (4 * d.significand + 2)
  if d.significand % 2 = 0 then low.le x && x.le high else low.lt x && x.lt high

/-- The decimal `digits * 10 ^ unit` for the double that has `count` digits, if
    there is one. -/
def digits? (d : Double) (top : Int) (count : Nat) : Option (Nat × Int) :=
  let unit := top + 1 - count
  let x := d.value.scale 10 (-unit)
  let below := x.num / x.den
  let denotes (n : Nat) : Bool := d.denotedBy (Fraction.scale ⟨n, 1⟩ 10 unit)
  match denotes below, denotes (below + 1) with
  | true, true => some (x.round, unit)
  | true, false => some (below, unit)
  | false, true => some (below + 1, unit)
  | false, false => none

/-- The shortest decimal for the double; seventeen digits are always enough. -/
def shortest (d : Double) : Nat × Int :=
  let top := d.value.log 10
  ((List.range 17).findSome? fun i => d.digits? top (i + 1)).getD (0, 0)

end Double

/-- A number given by its significant digits and the place of the first of them,
    in positional or in exponent notation. -/
def layOut (digits : List Char) (place : Int) : String :=
  if -4 ≤ place ∧ place < 16 then
    if place < 0 then "0." ++ .ofList (List.replicate (-place - 1).toNat '0' ++ digits)
    else
      let whole := digits.take (place.toNat + 1)
      let part := digits.drop (place.toNat + 1)
      .ofList (whole ++ List.replicate (place.toNat + 1 - whole.length) '0') ++ "." ++
        (if part.isEmpty then "0" else .ofList part)
  else
    let exponent := toString place.natAbs
    .ofList (digits.take 1) ++ (if digits.length ≤ 1 then "" else "." ++ .ofList (digits.drop 1)) ++
      "e" ++ (if place < 0 then "-" else "+") ++
      (if exponent.length < 2 then "0" ++ exponent else exponent)

/-- The shortest decimal that denotes the same double. -/
def render (x : Decimal) : String :=
  let sign := if x.negative then "-" else ""
  if x.digits = 0 then sign ++ "0.0"
  else
    let d := Double.nearest ⟨x.digits, Nat.pow 10 x.places⟩
    if d.significand = 0 then sign ++ "0.0"
    else if d.power > 971 then sign ++ "inf"
    else
      let (n, unit) := d.shortest
      let ds := Nat.toDigits 10 n
      let place := unit + ds.length - 1
      let significant := (ds.reverse.dropWhile (· = '0')).reverse
      sign ++ layOut significant place

/-- The number in positional notation with all of its places, and one at least. -/
def plain (x : Decimal) : String :=
  let ds := Nat.toDigits 10 (if x.places = 0 then 10 * x.digits else x.digits)
  let places := max 1 x.places
  let ds := List.replicate (places + 1 - ds.length) '0' ++ ds
  (if x.negative then "-" else "") ++ .ofList (ds.take (ds.length - places)) ++ "." ++
    .ofList (ds.drop (ds.length - places))

/-- Whether the number is the whole number `n`. -/
def isInt (x : Decimal) (n : Int) : Bool :=
  (if x.negative then -Int.ofNat x.digits else x.digits) = n * Int.ofNat (Nat.pow 10 x.places)

end Decimal

end InstallerKit
