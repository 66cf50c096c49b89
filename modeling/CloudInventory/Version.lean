import CloudInventory.Text.Integer
import CloudInventory.Text.Parts

/-!
Versions: whole numbers between points. They are compared number by number, the shorter one filled
up with zeros. A leading `v` and everything from the first `-` or `+` on are passed over.
-/
namespace CloudInventory

structure Version where
  components : List UInt64
  deriving DecidableEq, Repr

namespace Version

/-- Compares component by component; a missing one counts as zero. -/
def compareComponents : List UInt64 → List UInt64 → Ordering
  | [], [] => .eq
  | a :: as, [] => (compare a 0).then (compareComponents as [])
  | [], b :: bs => (compare 0 b).then (compareComponents [] bs)
  | a :: as, b :: bs => (compare a b).then (compareComponents as bs)

def cmp (a b : Version) : Ordering :=
  compareComponents a.components b.components

def before (a b : Version) : Bool :=
  a.cmp b = .lt

/-- Whether two versions count as the same one, as `1.0` and `1.0.0` do. -/
def same (a b : Version) : Bool :=
  a.cmp b = .eq

/-- The comparison of two versions as one that may have no answer. It always has one. -/
def cmp? (a b : Version) : Option Ordering :=
  some (a.cmp b)

def dropLetter : List Char → List Char
  | 'v' :: rest => rest
  | cs => cs

/-- What stands before the first suffix. -/
def core (cs : List Char) : List Char :=
  (dropLetter cs).takeWhile (fun c => c != '-' && c != '+')

def parse? (s : String) : Option Version :=
  ((Text.splitAt '.' (core s.toList)).mapM Text.word64?).map Version.mk

def text (v : Version) : String :=
  ".".intercalate (v.components.map toString)

end Version

end CloudInventory
