import CloudInventory.Binary64.Notation
import CloudInventory.Json.Basic
import CloudInventory.Text.Quoted

/-!
Misfits: why a document is not a record of the kind asked for.
-/
namespace CloudInventory

inductive Misfit where
  /-- The document is of another kind than the one expected. -/
  | wrongKind (found : Json) (expected : String)
  /-- A whole number that no machine integer holds. -/
  | outOfRange (n : Int)
  | missingMember (name : String)
  /-- A record given by its items ends where the item of this position should stand. -/
  | tooFewItems (position : Nat) (record : String) (width : Nat)
  /-- A record given by its items has this many of them, which is more than it has members. -/
  | tooManyItems (count : Nat)

namespace Misfit

/-- What was found, in the words of a message. -/
def foundText : Json → String
  | .null => "null"
  | .bool b => "boolean `" ++ (if b then "true" else "false") ++ "`"
  | .int n => "integer `" ++ toString n ++ "`"
  | .float x => "floating point `" ++ String.ofList (x.render Binary64.documentNotation) ++ "`"
  | .string s => "string " ++ Text.quoted s
  | .array _ => "sequence"
  | .object _ => "map"

def message : Misfit → String
  | .wrongKind found expected => "invalid type: " ++ foundText found ++ ", expected " ++ expected
  | .outOfRange n => "invalid value: " ++ foundText (.int n) ++ ", expected i64"
  | .missingMember name => "missing field `" ++ name ++ "`"
  | .tooFewItems position record width =>
    "invalid length " ++ toString position ++ ", expected struct " ++ record ++ " with "
      ++ toString width ++ (if width = 1 then " element" else " elements")
  | .tooManyItems count =>
    "invalid length " ++ toString count ++ ", expected fewer elements in array"

end Misfit

end CloudInventory
