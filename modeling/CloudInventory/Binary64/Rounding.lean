import CloudInventory.Binary64.Basic

/-!
Rounding an exact quotient to a whole number and to the nearest number of the format.
-/
namespace CloudInventory

/-- Where a value goes that is equally near to two neighbours. -/
inductive Tie where
  | toEven
  /-- To the greater one. -/
  | up
  deriving DecidableEq, Repr

/-- The whole number nearest to `num / den`. -/
def divideToNearest (tie : Tie) (num den : Nat) : Nat :=
  let q := num / den
  let twice := 2 * (num % den)
  if twice < den then q
  else if den < twice then q + 1
  else if tie = .toEven ∧ q % 2 = 0 then q else q + 1

namespace Binary64

/-- The `k` with `2 ^ k ≤ num / den < 2 ^ (k + 1)`, for positive `num` and `den`. -/
def binaryOrder (num den : Nat) : Int :=
  let k : Int := (num.log2 : Int) - den.log2
  if num * Nat.pow 2 (-k).toNat < den * Nat.pow 2 k.toNat then k - 1 else k

/-- The number nearest to `num / den`, a tie going to the even neighbour. Of a result in
`[2 ^ 52, 2 ^ 53]` units of `2 ^ e` the magnitude is that result plus `2 ^ 52` for each step of `e`
above the least one. -/
def ofQuotient (negative : Bool) (num den : Nat) : Binary64 :=
  if num = 0 then ofMagnitude negative 0
  else
    let e := max (binaryOrder num den - 52) (-1074)
    let units := divideToNearest .toEven (num * Nat.pow 2 (-e).toNat) (den * Nat.pow 2 e.toNat)
    ofMagnitude negative (min (units + (e + 1074).toNat * Nat.pow 2 52) infiniteMagnitude)

/-- The number nearest to a whole number. -/
def ofInt (n : Int) : Binary64 :=
  ofQuotient (n < 0) n.natAbs 1

end Binary64

end CloudInventory
