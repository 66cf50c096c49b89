import CloudInventory.Binary64.Rounding
import CloudInventory.Dictionary

/-!
Documents. A whole number and a floating-point number are different things even when they have the
same value, and the members of an object are in the order of their keys, each key once.
-/
namespace CloudInventory

inductive Json where
  | null
  | bool (b : Bool)
  | int (n : Int)
  | float (x : Binary64)
  | string (s : String)
  | array (items : List Json)
  | object (members : List (String × Json))
  deriving Inhabited

namespace Json

/-- The object with these members; of one key the last value stays. -/
def ofPairs (pairs : List (String × Json)) : Json :=
  .object (Dictionary.ofPairs pairs)

/-- The member of an object; nothing else has members. -/
def member? : Json → String → Option Json
  | .object members, key => Dictionary.get? members key
  | _, _ => none

/-- The value of a number, whole numbers rounded to the nearest floating-point number. -/
def number? : Json → Option Binary64
  | .int n => some (.ofInt n)
  | .float x => some x
  | _ => none

end Json

end CloudInventory
