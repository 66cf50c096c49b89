import CloudInventory.Value

/-!
The types of attributes. Null belongs to every type at every depth, and a whole number to the type
of floating-point numbers; a value that does not belong is reported with the indices that lead to
the first part at fault.
-/
namespace CloudInventory

inductive AttributeType where
  | string
  | int
  | float
  | bool
  | list (element : AttributeType)
  | set (element : AttributeType)
  deriving DecidableEq, Repr, Inhabited

/-- Why a value does not belong to a type. -/
inductive TypeError where
  | mismatch (expected : AttributeType) (got : Kind)
  | item (index : Nat) (inner : TypeError)
  deriving DecidableEq, Repr

namespace AttributeType

def name : AttributeType → String
  | .string => "String"
  | .int => "Int"
  | .float => "Float"
  | .bool => "Bool"
  | .list element => "List<" ++ element.name ++ ">"
  | .set element => "Set<" ++ element.name ++ ">"

/-- The first item that a check refuses, counted from `index`. -/
def checkItems (check : Value → Except TypeError Unit) (index : Nat) :
    List Value → Except TypeError Unit
  | [] => .ok ()
  | item :: rest =>
    match check item with
    | .ok () => checkItems check (index + 1) rest
    | .error e => .error (.item index e)

def check : AttributeType → Value → Except TypeError Unit
  | _, .null => .ok ()
  | .string, .string _ => .ok ()
  | .int, .int _ => .ok ()
  | .float, .float _ => .ok ()
  | .float, .int _ => .ok ()
  | .bool, .bool _ => .ok ()
  | .list element, .list items => checkItems element.check 0 items
  | .set element, .list items => checkItems element.check 0 items
  | expected, value => .error (.mismatch expected value.kind)

end AttributeType

/-- The wording of a difference in kind. -/
def mismatchText (expected got : String) : String :=
  "Type mismatch: expected " ++ expected ++ ", got " ++ got

def TypeError.message : TypeError → String
  | .mismatch expected got => mismatchText expected.name got.name
  | .item index inner => "List item at index " ++ toString index ++ ": " ++ inner.message

end CloudInventory
