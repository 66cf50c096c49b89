import CloudInventory.Binary64.Rounding

/-!
Decimal numerals: reading one as the nearest number of the format, and the shortest one that reads
back as a given number.
-/
namespace CloudInventory

/-- The number `± coefficient * 10 ^ exponent`. -/
structure Decimal where
  negative : Bool
  coefficient : Nat
  exponent : Int
  deriving DecidableEq, Repr

namespace Decimal

/-- The value of a run of decimal digits. -/
def ofDigits (digits : List Char) : Nat :=
  digits.foldl (fun n c => 10 * n + (c.toNat - 48)) 0

/-- How many decimal digits a number has. -/
def digitCount (n : Nat) : Nat :=
  (Nat.toDigits 10 n).length

/-- The nearest number of the format. A value of `10 ^ 400` or more is infinite and one below
`10 ^ (-400)` is zero, whatever its digits, so that no power beyond the digits given is formed. -/
def toBinary64 (d : Decimal) : Binary64 :=
  if d.coefficient = 0 then .ofMagnitude d.negative 0
  else if 400 < d.exponent then .infinity d.negative
  else if d.exponent + (digitCount d.coefficient : Int) < -400 then .ofMagnitude d.negative 0
  else .ofQuotient d.negative (d.coefficient * Nat.pow 10 d.exponent.toNat)
    (Nat.pow 10 (-d.exponent).toNat)

end Decimal

namespace Binary64

/-- The `p` with `10 ^ p ≤ num / den < 10 ^ (p + 1)`, for positive `num` and `den`. -/
def decimalOrder (num den : Nat) : Int :=
  if den ≤ num then Decimal.digitCount (num / den) - 1
  else
    let k := Decimal.digitCount (den / num)
    if den ≤ num * Nat.pow 10 (k - 1) then 1 - (k : Int) else -(k : Int)

/-- The exact magnitude of a finite number as a quotient. -/
def toQuotient (x : Binary64) : Nat × Nat :=
  (x.significand * Nat.pow 2 x.exponent.toNat, Nat.pow 2 (-x.exponent).toNat)

/-- Whether the decimal `c * 10 ^ q` reads back as the positive finite number `x`: it lies between
the midpoints to the neighbours of `x`, the midpoints themselves included when `x` is even. The
lower neighbour of a power of two is half as far away as the upper one. -/
def readsBack (x : Binary64) (c : Nat) (q : Int) : Bool :=
  let below := if x.fraction = 0 ∧ 1 < x.exponentField then 1 else 2
  let e := x.exponent - 2
  let value := c * Nat.pow 10 q.toNat * Nat.pow 2 (-e).toNat
  let unit := Nat.pow 10 (-q).toNat * Nat.pow 2 e.toNat
  let lower := (4 * x.significand - below) * unit
  let upper := (4 * x.significand + 2) * unit
  if x.significand % 2 = 0 then lower ≤ value ∧ value ≤ upper else lower < value ∧ value < upper

/-- The shortest decimal on the grid of `n` digits, if one of the two neighbours of `x` on it reads
back as `x`; of two the nearer one, and of two equally near the one that the tie asks for. -/
def onGrid? (tie : Tie) (x : Binary64) (n : Nat) : Option (Nat × Int) :=
  let (num, den) := x.toQuotient
  let q := decimalOrder num den - n + 1
  let scaled := num * Nat.pow 10 (-q).toNat
  let step := den * Nat.pow 10 q.toNat
  let low := scaled / step
  match x.readsBack low q, x.readsBack (low + 1) q with
  | true, true => some (divideToNearest tie scaled step, q)
  | true, false => some (low, q)
  | false, true => some (low + 1, q)
  | false, false => none

/-- The first grid of at most `n + 1` digits, from `k` digits on, with a decimal that reads back. -/
def firstGrid (tie : Tie) (x : Binary64) (k : Nat) : Nat → Nat × Int
  | 0 => (x.onGrid? tie k).getD (0, 0)
  | n + 1 => (x.onGrid? tie k).getD (firstGrid tie x (k + 1) n)

/-- Without the zeros at its end. -/
def dropZeros (c : Nat) (q : Int) : Nat → Nat × Int
  | 0 => (c, q)
  | n + 1 => if c % 10 = 0 then dropZeros (c / 10) (q + 1) n else (c, q)

/-- The fewest decimal digits that read back as a finite number; seventeen always do. -/
def shortest (tie : Tie) (x : Binary64) : Decimal :=
  if x.significand = 0 then ⟨x.isNegative, 0, 0⟩
  else
    let (c, q) := x.firstGrid tie 1 16
    let (c, q) := dropZeros c q 20
    ⟨x.isNegative, c, q⟩

end Binary64

end CloudInventory
