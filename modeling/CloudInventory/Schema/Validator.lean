import CloudInventory.Text.Quoted
import CloudInventory.Value

/-!
Validators: further conditions on a value, each with a description. A value of another kind than the
one a condition is about passes.
-/
namespace CloudInventory

structure Validator where
  description : String
  /-- The message with which a value is rejected, if it is. -/
  check : Value → Except String Unit

namespace Validator

/-- How a validator is shown in a listing of parts. -/
def listing (v : Validator) : String :=
  "Validator \x7b description: " ++ Text.quoted v.description ++ " \x7d"

/-- Rejects empty lists. -/
def nonEmptyList : Validator where
  description := "list must contain at least one element"
  check
    | .list [] => .error "at least one element is required"
    | _ => .ok ()

/-- Accepts the integers from `min` to `max`. -/
def intBetween (min max : Int64) : Validator where
  description := "value must be between " ++ toString min.toInt ++ " and " ++ toString max.toInt
  check
    | .int n =>
      if min ≤ n ∧ n ≤ max then .ok ()
      else .error (toString n.toInt ++ " is out of range, expected a value between "
        ++ toString min.toInt ++ " and " ++ toString max.toInt)
    | _ => .ok ()

/-- Accepts the texts that begin with one of the prefixes. -/
def stringPrefix (prefixes : List String) : Validator where
  description := "value must start with one of: " ++ ", ".intercalate prefixes
  check
    | .string s =>
      if prefixes.any (fun p => p.toList.isPrefixOf s.toList) then .ok ()
      else .error ("\"" ++ s ++ "\" must start with one of: " ++ ", ".intercalate prefixes)
    | _ => .ok ()

/-- The messages of the validators that reject a value, in order. -/
def rejections (validators : List Validator) (value : Value) : List String :=
  validators.filterMap (fun v =>
    match v.check value with
    | .ok () => none
    | .error message => some message)

end Validator

end CloudInventory
