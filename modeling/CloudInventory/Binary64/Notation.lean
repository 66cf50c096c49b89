import CloudInventory.Binary64.Decimal

/-!
How a floating-point number is written: by position or with a power of ten, and rounded to a whole
number.
-/
namespace CloudInventory

/-- The decisions of a notation: the least and the greatest decimal exponent written by position,
whether a positive power of ten carries its sign, and which of two equally near decimals is
written. -/
structure FloatNotation where
  least : Int
  greatest : Int
  plusSign : Bool
  tie : Tie

namespace Binary64

def signChars (x : Binary64) : List Char :=
  if x.isNegative then ['-'] else []

/-- Digits `c` standing `q` places to the left of the point, with at least one digit on both sides
of the point. -/
def positional (c : Nat) (q : Int) : List Char :=
  let digits := Nat.toDigits 10 c
  if 0 ≤ q then digits ++ List.replicate q.toNat '0' ++ ['.', '0']
  else
    let places := (-q).toNat
    let padded := List.replicate (places + 1 - digits.length) '0' ++ digits
    padded.take (padded.length - places) ++ '.' :: padded.drop (padded.length - places)

/-- Digits `c` with a point after the first, times the power `p` of ten. -/
def scientific (c : Nat) (p : Int) (plusSign : Bool) : List Char :=
  let digits := Nat.toDigits 10 c
  let mantissa :=
    match digits with
    | d :: e :: rest => d :: '.' :: e :: rest
    | digits => digits
  let sign := if p < 0 then ['-'] else if plusSign then ['+'] else []
  mantissa ++ 'e' :: sign ++ Nat.toDigits 10 p.natAbs

/-- A finite number in its shortest digits. -/
def render (layout : FloatNotation) (x : Binary64) : List Char :=
  let d := x.shortest layout.tie
  let p := d.exponent + Decimal.digitCount d.coefficient - 1
  x.signChars ++
    if d.coefficient = 0 ∨ (layout.least ≤ p ∧ p ≤ layout.greatest) then
      positional d.coefficient d.exponent
    else scientific d.coefficient p layout.plusSign

/-- In the text of a document a power of ten carries its sign, and starts at `1e+16` and `1e-6`. -/
def documentNotation : FloatNotation := ⟨-5, 15, true, .toEven⟩

/-- In a message about a value a power of ten starts at `1e16` and `1e-5`, and of two decimals the
one of greater magnitude is written. -/
def messageNotation : FloatNotation := ⟨-4, 15, false, .up⟩

/-- As it stands in a message, with words for what is not finite. -/
def inMessage (x : Binary64) : String :=
  if x.isNaN then "NaN"
  else if x.isFinite then String.ofList (x.render messageNotation)
  else if x.isNegative then "-inf" else "inf"

/-- Rounded to a whole number, a half to the even one; the sign stays also before zero. -/
def wholeText (x : Binary64) : String :=
  if x.isNaN then "NaN"
  else if x.isFinite then
    let (num, den) := x.toQuotient
    String.ofList (x.signChars ++ Nat.toDigits 10 (divideToNearest .toEven num den))
  else if x.isNegative then "-inf" else "inf"

end Binary64

end CloudInventory
