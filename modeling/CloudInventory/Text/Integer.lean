import CloudInventory.Binary64.Decimal

/-!
Reading whole numbers that fit a machine word.
-/
namespace CloudInventory.Text

/-- The number that a run of decimal digits spells; leading zeros are allowed, an empty run is
not. -/
def digits? (cs : List Char) : Option Nat :=
  if cs.isEmpty || !cs.all Char.isDigit then none else some (Decimal.ofDigits cs)

/-- A whole number with or without a sign. -/
def signed? : List Char → Option Int
  | '-' :: rest => (digits? rest).map (fun n => -(n : Int))
  | '+' :: rest => (digits? rest).map (fun n => (n : Int))
  | cs => (digits? cs).map (fun n => (n : Int))

/-- A whole number of 64 bits with or without a sign. -/
def int64? (s : String) : Option Int64 :=
  (signed? s.toList).bind (fun n =>
    if Int64.minValue.toInt ≤ n ∧ n ≤ Int64.maxValue.toInt then some (Int64.ofInt n) else none)

/-- A run of digits whose number fits 64 bits. -/
def word64? (cs : List Char) : Option UInt64 :=
  (digits? cs).bind (fun n => if n < UInt64.size then some (UInt64.ofNat n) else none)

end CloudInventory.Text
