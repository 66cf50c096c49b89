import CloudInventory.Schema.AttributeType
import CloudInventory.Schema.Validator

/-!
Schemas: the attributes and nested blocks that a configuration or a result may hold, by name.
-/
namespace CloudInventory

structure Attribute where
  type : AttributeType
  required : Bool := false
  /-- Set by a read and not by a configuration. -/
  computed : Bool := false
  defaultValue : Option Value := none
  description : Option String := none
  validators : List Validator := []

/-- Whether the elements of a block are kept in order. -/
inductive Nesting where
  | list
  | set
  deriving DecidableEq, Repr, Inhabited

def Nesting.name : Nesting → String
  | .list => "list"
  | .set => "set"

/-- A block: a list of elements that each hold attributes and further blocks. -/
structure Block where
  nesting : Nesting
  attributes : List (String × Attribute)
  blocks : List (String × Block)
  computed : Bool
  description : Option String
  validators : List Validator

namespace Block

/-- A block without attributes, nested blocks or conditions. -/
def empty (nesting : Nesting) : Block :=
  ⟨nesting, [], [], false, none, []⟩

instance : Inhabited Block := ⟨empty .list⟩

end Block

/-- The schema of a whole configuration. -/
structure Schema where
  name : String
  description : Option String
  attributes : Dictionary Attribute
  blocks : Dictionary Block

end CloudInventory
