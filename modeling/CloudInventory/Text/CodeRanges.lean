import CloudInventory.Text.Hex

/-!
Sets of code points, held as inclusive ranges in increasing order that neither meet nor touch.
A table of a character property is written as a line of hexadecimal ranges and read once.
-/
namespace CloudInventory

/-- Inclusive ranges of code points, in increasing order, no two of them touching. -/
abbrev CodeRanges := List (Nat × Nat)

namespace CodeRanges

/-- The largest code point. -/
def last : Nat := 0x10FFFF

def contains (ranges : CodeRanges) (code : Nat) : Bool :=
  ranges.any (fun r => r.1 ≤ code && code ≤ r.2)

def containsChar (ranges : CodeRanges) (c : Char) : Bool :=
  ranges.contains c.toNat

/-- Closes up ranges that are ordered by their lower ends, starting from an open range. -/
def closeFrom (lo hi : Nat) : List (Nat × Nat) → CodeRanges
  | [] => [(lo, hi)]
  | (lo', hi') :: rest =>
    if lo' ≤ hi + 1 then closeFrom lo (max hi hi') rest
    else (lo, hi) :: closeFrom lo' hi' rest

/-- Ranges in any order, overlapping or not, as a set. -/
def ofList (ranges : List (Nat × Nat)) : CodeRanges :=
  match ranges.mergeSort (fun a b => a.1 ≤ b.1) with
  | [] => []
  | (lo, hi) :: rest => closeFrom lo hi rest

def union (a b : CodeRanges) : CodeRanges :=
  ofList (a ++ b)

/-- What the ranges leave out, from `next` on. -/
def gapsFrom (next : Nat) : CodeRanges → CodeRanges
  | [] => if next ≤ last then [(next, last)] else []
  | (lo, hi) :: rest =>
    if next < lo then (next, lo - 1) :: gapsFrom (hi + 1) rest else gapsFrom (hi + 1) rest

def complement (ranges : CodeRanges) : CodeRanges :=
  gapsFrom 0 ranges

def inter (a b : CodeRanges) : CodeRanges :=
  complement (union (complement a) (complement b))

def difference (a b : CodeRanges) : CodeRanges :=
  inter a (complement b)

def symmetricDifference (a b : CodeRanges) : CodeRanges :=
  difference (union a b) (inter a b)

/-- Reads a line of a table: ranges `lo-hi` or single code points, in hexadecimal, with a blank
between them. `lo` is the lower end once a dash has been seen and `acc` the number being read. -/
def readLine (lo : Option Nat) (acc : Nat) : List Char → List (Nat × Nat)
  | [] => [(lo.getD acc, acc)]
  | ' ' :: rest => (lo.getD acc, acc) :: readLine none 0 rest
  | '-' :: rest => readLine (some acc) 0 rest
  | c :: rest => readLine lo (16 * acc + (Text.hexDigit? c).getD 0) rest

/-- The set that lines of ordered hexadecimal ranges spell. -/
def ofTable (lines : List String) : CodeRanges :=
  lines.flatMap (fun line => readLine none 0 line.toList)

end CodeRanges

end CloudInventory
