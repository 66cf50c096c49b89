import CloudInventory.Binary64.Decimal
import CloudInventory.Text.Blank
import CloudInventory.Time.Calendar

/-!
Timestamps. A text is read in the strict form of a date and time with a zone offset, and failing
that in the lenient form without one, which stands for Universal Time. In the lenient form numbers
may have fewer digits and blanks before them, and the year a sign.
-/
namespace CloudInventory.Time

/-- A point in time. A leap second is the second before it with a thousand million nanoseconds or
more. -/
structure Instant where
  seconds : Int
  nanos : Nat
  deriving DecidableEq, Repr

def Instant.before (a b : Instant) : Bool :=
  a.seconds < b.seconds || (a.seconds = b.seconds && a.nanos < b.nanos)

/-- A date and time of day as written; the second may be 60. -/
structure Civil where
  year : Int
  month : Nat
  day : Nat
  hour : Nat
  minute : Nat
  second : Nat
  nanos : Nat
  deriving DecidableEq, Repr

/-- The instant of a date and time at an offset, in seconds, from Universal Time. -/
def Civil.toInstant (c : Civil) (offset : Int) : Instant :=
  let second := min c.second 59
  { seconds := dayNumber c.year c.month c.day * 86400 + (c.hour * 3600 + c.minute * 60 + second)
      - offset
    nanos := c.nanos + if c.second = 60 then 1000000000 else 0 }

def Civil.isDate (c : Civil) : Bool :=
  Time.isDate c.year c.month c.day

/-- Why a text is no timestamp. -/
inductive Fault where
  | tooShort
  | tooLong
  | outOfRange
  | invalid
  deriving DecidableEq, Repr

def Fault.message : Fault → String
  | .tooShort => "premature end of input"
  | .tooLong => "trailing input"
  | .outOfRange => "input is out of range"
  | .invalid => "input contains invalid characters"

/-- Reads the front of a text. -/
abbrev Scan (α : Type) := List Char → Except Fault (α × List Char)

/-- A number of `min` to `max` digits that fits a machine integer. -/
def scanNumber (min max : Nat) : Scan Int := fun cs =>
  let digits := (cs.take max).takeWhile Char.isDigit
  let value := Decimal.ofDigits digits
  if cs.length < min then .error .tooShort
  else if digits.length < min then .error .invalid
  else if Nat.pow 2 63 ≤ value then .error .outOfRange
  else .ok (value, cs.drop digits.length)

/-- A character that has to stand next. -/
def scanChar (c : Char) : Scan Unit
  | [] => .error .tooShort
  | d :: rest => if c = d then .ok ((), rest) else .error .invalid

/-- A number that has to lie between two bounds. -/
def checked (lo hi : Nat) (scan : Scan Int) : Scan Nat := fun cs => do
  let (n, rest) ← scan cs
  if (lo : Int) ≤ n ∧ n ≤ hi then pure (n.toNat, rest) else .error .outOfRange

/-- The digits of a fraction of a second as nanoseconds; those after the ninth are passed over. -/
def scanFraction : Scan Nat
  | '.' :: rest => do
    let (value, after) ← scanNumber 1 9 rest
    let places := rest.length - after.length
    pure (value.toNat * Nat.pow 10 (9 - places), after.dropWhile Char.isDigit)
  | cs => .ok (0, cs)

/-! ### The lenient form -/

/-- A number of at most two digits after blanks. -/
def scanPadded (lo hi : Nat) : Scan Nat := fun cs =>
  checked lo hi (scanNumber 1 2) (cs.dropWhile Text.isBlank)

/-- A year: four digits at most, or any number of them after a sign. -/
def scanYear : Scan Int := fun cs => do
  let (year, rest) ←
    match cs.dropWhile Text.isBlank with
    | '-' :: rest => do
      let (n, rest) ← scanNumber 1 rest.length rest
      pure (-n, rest)
    | '+' :: rest => scanNumber 1 rest.length rest
    | cs => scanNumber 1 4 cs
  if Int32.minValue.toInt ≤ year ∧ year ≤ Int32.maxValue.toInt then pure (year, rest)
  else .error .outOfRange

/-- A date and time of day without a zone offset. -/
def scanLocal : Scan Civil := fun cs => do
  let (year, cs) ← scanYear cs
  let (_, cs) ← scanChar '-' cs
  let (month, cs) ← scanPadded 1 12 cs
  let (_, cs) ← scanChar '-' cs
  let (day, cs) ← scanPadded 1 31 cs
  let (_, cs) ← scanChar 'T' cs
  let (hour, cs) ← scanPadded 0 23 cs
  let (_, cs) ← scanChar ':' cs
  let (minute, cs) ← scanPadded 0 59 cs
  let (_, cs) ← scanChar ':' cs
  let (second, cs) ← scanPadded 0 60 cs
  let (nanos, cs) ← scanFraction cs
  pure (⟨year, month, day, hour, minute, second, nanos⟩, cs)

def localInstant (text : String) : Except Fault Instant := do
  let (civil, rest) ← scanLocal text.toList
  if !rest.isEmpty then .error .tooLong
  else if civil.isDate then .ok (civil.toInstant 0)
  else .error .outOfRange

/-! ### The strict form -/

/-- A number of exactly so many digits. -/
def scanFixed (lo hi width : Nat) : Scan Nat :=
  checked lo hi (scanNumber width width)

/-- The letter or blank between date and time. -/
def scanSeparator : Scan Unit
  | [] => .error .tooShort
  | c :: rest => if c = 'T' ∨ c = 't' ∨ c = ' ' then .ok ((), rest) else .error .invalid

/-- Hours and minutes of an offset, in seconds. -/
def scanOffsetTime (negative : Bool) : Scan Int := fun cs => do
  let (hours, cs) ← scanFixed 0 23 2 cs
  let (_, cs) ← scanChar ':' cs
  let (minutes, cs) ← scanFixed 0 59 2 cs
  let seconds : Int := hours * 3600 + minutes * 60
  pure (if negative then -seconds else seconds, cs)

/-- A zone offset: the letter for Universal Time, or a sign with hours and minutes. -/
def scanOffset : Scan Int
  | [] => .error .tooShort
  | c :: rest =>
    if c = 'Z' ∨ c = 'z' then .ok (0, rest)
    else if c = '+' then scanOffsetTime false rest
    else if c = '-' ∨ c = '\u2212' then scanOffsetTime true rest
    else .error .invalid

/-- A date and time of day with a zone offset. -/
def scanZoned : Scan (Civil × Int) := fun cs => do
  let (year, cs) ← scanFixed 0 9999 4 cs
  let (_, cs) ← scanChar '-' cs
  let (month, cs) ← scanFixed 1 12 2 cs
  let (_, cs) ← scanChar '-' cs
  let (day, cs) ← scanFixed 1 31 2 cs
  let (_, cs) ← scanSeparator cs
  let (hour, cs) ← scanFixed 0 23 2 cs
  let (_, cs) ← scanChar ':' cs
  let (minute, cs) ← scanFixed 0 59 2 cs
  let (_, cs) ← scanChar ':' cs
  let (second, cs) ← scanFixed 0 60 2 cs
  let (nanos, cs) ← scanFraction cs
  let (offset, cs) ← scanOffset cs
  pure ((⟨year, month, day, hour, minute, second, nanos⟩, offset), cs)

def zonedInstant? (text : String) : Option Instant :=
  match scanZoned text.toList with
  | .ok ((civil, offset), []) => if civil.isDate then some (civil.toInstant offset) else none
  | _ => none

/-- The instant that a text stands for; a text that is neither form is reported as the second. -/
def parse (text : String) : Except Fault Instant :=
  match zonedInstant? text with
  | some instant => .ok instant
  | none => localInstant text

end CloudInventory.Time
