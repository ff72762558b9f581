import InstallerKit.Text.Digit
import InstallerKit.Toml.Basic

/-!
# Numbers, dates and times

Between two digits of a number a low line may stand. Whole numbers may be
written to the base sixteen, eight or two; other numbers have a fraction, an
exponent, or both. A date has to be one of the calendar, and may have a time
after it, and that an offset. Only the kinds of numbers with a fraction, of dates
and of times matter, so of these no value is computed.
-/

namespace InstallerKit.Toml

/-- The digits that `cs` starts with, without the low lines between them, and the
    characters that are left. -/
def digitRun (isDigit : Char → Bool) : List Char → List Char × List Char
  | [] => ([], [])
  | [c] => if isDigit c then ([c], []) else ([], [c])
  | c :: d :: cs =>
    if !isDigit c then ([], c :: d :: cs)
    else if d = '_' then
      match digitRun isDigit cs with
      | ([], _) => ([c], d :: cs)
      | (ds, rest) => (c :: ds, rest)
    else
      let (ds, rest) := digitRun isDigit (d :: cs)
      (c :: ds, rest)

/-- The value of a digit to any base up to sixteen. -/
def placeValue (c : Char) : Nat :=
  if c.isDigit then c.toNat - 48 else if c ≤ 'F' then c.toNat - 55 else c.toNat - 87

/-- The number of some digits. -/
def valueOf (base : Nat) (ds : List Char) : Nat :=
  ds.foldl (fun n c => base * n + placeValue c) 0

/-- A whole number to another base than ten. -/
def readBased? (cs : List Char) : Option (Datum × List Char) :=
  let based (base : Nat) (isDigit : Char → Bool) (cs : List Char) :=
    match digitRun isDigit cs with
    | ([], _) => none
    | (ds, rest) => some (Datum.integer (valueOf base ds), rest)
  match cs with
  | '0' :: 'x' :: cs =>
    based 16 (fun c => c.isDigit || ('a' ≤ c && c ≤ 'f') || ('A' ≤ c && c ≤ 'F')) cs
  | '0' :: 'o' :: cs => based 8 (fun c => '0' ≤ c && c ≤ '7') cs
  | '0' :: 'b' :: cs => based 2 (fun c => c = '0' || c = '1') cs
  | _ => none

/-- The sign that `cs` starts with: whether it is a minus, and what is left. -/
def readSign : List Char → Bool × List Char
  | '+' :: cs => (false, cs)
  | '-' :: cs => (true, cs)
  | cs => (false, cs)

/-- The characters after a fraction, if there is one. -/
def skipFraction (cs : List Char) : List Char :=
  match cs with
  | '.' :: rest =>
    match digitRun Char.isDigit rest with
    | ([], _) => cs
    | (_, rest) => rest
  | _ => cs

/-- The characters after an exponent, if there is one. -/
def skipExponent (cs : List Char) : List Char :=
  match cs with
  | c :: rest =>
    if c = 'e' || c = 'E' then
      match digitRun Char.isDigit (readSign rest).2 with
      | ([], _) => cs
      | (_, rest) => rest
    else cs
  | [] => []

/-- A number to the base ten. A zero starts no longer number. -/
def readDecimal? (cs : List Char) : Option (Except Error (Datum × List Char)) :=
  let (negative, digits) := readSign cs
  let whole :=
    match digits with
    | '0' :: rest => (['0'], rest)
    | _ => digitRun Char.isDigit digits
  match whole with
  | ([], _) => none
  | (ds, rest) =>
    let left := skipExponent (skipFraction rest)
    if left.length < rest.length then
      some (.ok (.special "float" (.ofList (cs.take (cs.length - left.length))), left))
    else if Text.maxDigits < ds.length then some (.error (.tooLong ds.length))
    else
      let n : Int := valueOf 10 ds
      some (.ok (.integer (if negative then -n else n), rest))

/-- The numbers that have names. -/
def readNamed? (cs : List Char) : Option (Datum × List Char) :=
  let name := (readSign cs).2.take 3
  if name = ['i', 'n', 'f'] || name = ['n', 'a', 'n'] then
    some (.special "float" (.ofList name), (readSign cs).2.drop 3)
  else none

/-- A number of `count` digits. -/
def readPlaces? (count : Nat) (cs : List Char) : Option (Nat × List Char) :=
  let ds := cs.take count
  if ds.length = count && ds.all Char.isDigit then some (valueOf 10 ds, cs.drop count) else none

/-- The characters after `c`. -/
def skipChar? (c : Char) : List Char → Option (List Char)
  | d :: cs => if c = d then some cs else none
  | [] => none

/-- The characters after a time of day. -/
def skipTime? (cs : List Char) : Option (List Char) := do
  let (hour, cs) ← readPlaces? 2 cs
  let (minute, cs) ← readPlaces? 2 (← skipChar? ':' cs)
  let (second, cs) ← readPlaces? 2 (← skipChar? ':' cs)
  if 23 < hour || 59 < minute || 59 < second then none
  else
    match cs with
    | '.' :: rest =>
      if (rest.takeWhile Char.isDigit).isEmpty then cs else rest.dropWhile Char.isDigit
    | _ => cs

/-- The characters after an offset, if there is one. -/
def skipOffset (cs : List Char) : List Char :=
  match cs with
  | c :: rest =>
    if c = 'Z' || c = 'z' then rest
    else if c = '+' || c = '-' then
      (do
        let (hour, left) ← readPlaces? 2 rest
        let (minute, left) ← readPlaces? 2 (← skipChar? ':' left)
        if 23 < hour || 59 < minute then none else some left).getD cs
    else cs
  | [] => []

/-- The number of days in a month. -/
def daysIn (year month : Nat) : Nat :=
  if month = 2 then
    if year % 4 = 0 && (year % 100 ≠ 0 || year % 400 = 0) then 29 else 28
  else if month = 4 || month = 6 || month = 9 || month = 11 then 30
  else 31

/-- The parts of what looks like a date, and the characters after it. -/
def readDate? (cs : List Char) : Option ((Nat × Nat × Nat) × List Char) := do
  let (year, cs) ← readPlaces? 4 cs
  let (month, cs) ← readPlaces? 2 (← skipChar? '-' cs)
  let (day, cs) ← readPlaces? 2 (← skipChar? '-' cs)
  if 1 ≤ month && month ≤ 12 && 1 ≤ day && day ≤ 31 then some ((year, month, day), cs) else none

/-- A date, with or without a time after it. -/
def readMoment? (cs : List Char) : Option (Except Error (Datum × List Char)) := do
  let ((year, month, day), rest) ← readDate? cs
  let time :=
    match rest with
    | c :: after => if c = 'T' || c = 't' || c = ' ' then skipTime? after else none
    | [] => none
  if year = 0 || daysIn year month < day then some (.error .malformed)
  else
    match time with
    | some left =>
      let left := skipOffset left
      some (.ok (.special "datetime" (.ofList (cs.take (cs.length - left.length))), left))
    | none => some (.ok (.special "date" (.ofList (cs.take (cs.length - rest.length))), rest))

/-- A number, a date or a time. -/
def readScalar (cs : List Char) : Except Error (Datum × List Char) :=
  match readMoment? cs with
  | some r => r
  | none =>
    match skipTime? cs with
    | some left => .ok (.special "time" (.ofList (cs.take (cs.length - left.length))), left)
    | none =>
      match readBased? cs with
      | some r => .ok r
      | none =>
        match readDecimal? cs with
        | some r => r
        | none =>
          match readNamed? cs with
          | some r => .ok r
          | none => .error .malformed

end InstallerKit.Toml
