import CloudInventory.Binary64.Rounding
import CloudInventory.Json.Basic

/-!
Configuration values: what a query document holds and what a read returns. A document becomes a
value with every number either a machine integer or a floating-point number.
-/
namespace CloudInventory

inductive Value where
  | null
  | string (s : String)
  | int (n : Int64)
  | float (x : Binary64)
  | bool (b : Bool)
  | list (items : List Value)
  | map (entries : List (String × Value))
  deriving Inhabited

/-- What a value is, without what it holds. -/
inductive Kind where
  | null | string | int | float | bool | list | map
  deriving DecidableEq, Repr

namespace Kind

def name : Kind → String
  | .null => "Null"
  | .string => "String"
  | .int => "Int"
  | .float => "Float"
  | .bool => "Bool"
  | .list => "List"
  | .map => "Map"

end Kind

namespace Value

def kind : Value → Kind
  | .null => .null
  | .string _ => .string
  | .int _ => .int
  | .float _ => .float
  | .bool _ => .bool
  | .list _ => .list
  | .map _ => .map

def isNull : Value → Bool
  | .null => true
  | _ => false

def asString? : Value → Option String
  | .string s => some s
  | _ => none

def asBool? : Value → Option Bool
  | .bool b => some b
  | _ => none

def asInt? : Value → Option Int64
  | .int n => some n
  | _ => none

def asList? : Value → Option (List Value)
  | .list items => some items
  | _ => none

def asMap? : Value → Option (Dictionary Value)
  | .map entries => some entries
  | _ => none

/-- A whole number that fits a machine integer stays one; any other becomes the nearest
floating-point number. -/
def ofInt (n : Int) : Value :=
  if Int64.minValue.toInt ≤ n ∧ n ≤ Int64.maxValue.toInt then .int (Int64.ofInt n)
  else .float (Binary64.ofInt n)

mutual

def ofJson : Json → Value
  | .null => .null
  | .bool b => .bool b
  | .int n => ofInt n
  | .float x => .float x
  | .string s => .string s
  | .array items => .list (ofJsonItems items)
  | .object members => .map (ofJsonMembers members)

def ofJsonItems : List Json → List Value
  | [] => []
  | item :: rest => ofJson item :: ofJsonItems rest

def ofJsonMembers : List (String × Json) → List (String × Value)
  | [] => []
  | (key, member) :: rest => (key, ofJson member) :: ofJsonMembers rest

end

mutual

/-- A floating-point number that is not finite has no numeral and becomes null. -/
def toJson : Value → Json
  | .null => .null
  | .string s => .string s
  | .int n => .int n.toInt
  | .float x => if x.isFinite then .float x else .null
  | .bool b => .bool b
  | .list items => .array (toJsonItems items)
  | .map entries => .object (toJsonMembers entries)

def toJsonItems : List Value → List Json
  | [] => []
  | item :: rest => item.toJson :: toJsonItems rest

def toJsonMembers : List (String × Value) → List (String × Json)
  | [] => []
  | (key, value) :: rest => (key, value.toJson) :: toJsonMembers rest

end

/-- The value of something that may be absent. -/
def ofOption {α : Type} (wrap : α → Value) : Option α → Value
  | none => .null
  | some a => wrap a

end Value

/-- A configuration: named values. -/
abbrev Config := Dictionary Value

end CloudInventory
