import CloudInventory.Text.Hex

/-!
Binary floating-point numbers of 64 bits, held as their bit pattern: a sign, an exponent field of
eleven bits and a fraction of 52 bits. The magnitude bits, read as a number, increase with the
magnitude, so comparing two numbers is comparing two integers.
-/
namespace CloudInventory

/-- A number of the IEEE 754 format binary64. -/
structure Binary64 where
  bits : UInt64
  deriving DecidableEq, Repr, Inhabited

namespace Binary64

def isNegative (x : Binary64) : Bool :=
  Nat.pow 2 63 ≤ x.bits.toNat

/-- All bits but the sign. -/
def magnitude (x : Binary64) : Nat :=
  x.bits.toNat % Nat.pow 2 63

def exponentField (x : Binary64) : Nat :=
  x.magnitude / Nat.pow 2 52

def fraction (x : Binary64) : Nat :=
  x.magnitude % Nat.pow 2 52

/-- The magnitude of infinity; what lies above it is not a number. -/
def infiniteMagnitude : Nat := 2047 * Nat.pow 2 52

def isFinite (x : Binary64) : Bool :=
  x.magnitude < infiniteMagnitude

def isNaN (x : Binary64) : Bool :=
  infiniteMagnitude < x.magnitude

def ofMagnitude (negative : Bool) (magnitude : Nat) : Binary64 :=
  ⟨UInt64.ofNat (magnitude + if negative then Nat.pow 2 63 else 0)⟩

def zero : Binary64 := ofMagnitude false 0

def infinity (negative : Bool) : Binary64 := ofMagnitude negative infiniteMagnitude

/-- The positive quiet one among the patterns that are not a number. -/
def nan : Binary64 := ofMagnitude false (infiniteMagnitude + Nat.pow 2 51)

/-- The whole number `m` in `m * 2 ^ e`, the value of a finite number less its sign. -/
def significand (x : Binary64) : Nat :=
  if x.exponentField = 0 then x.fraction else Nat.pow 2 52 + x.fraction

/-- The `e` in `m * 2 ^ e`. -/
def exponent (x : Binary64) : Int :=
  max x.exponentField 1 - 1075

/-- Orders the numbers that are not NaN; both zeros have the same place. -/
def place (x : Binary64) : Int :=
  if x.isNegative then -(x.magnitude : Int) else x.magnitude

/-- The pattern in sixteen hexadecimal digits. -/
def toHex (x : Binary64) : String :=
  String.ofList (Text.hexPadded 16 x.bits.toNat)

end Binary64

end CloudInventory
