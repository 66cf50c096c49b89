import CloudInventory.Schema.Basic

/-!
Results: what a result holds of an entity, and the block in which a schema declares it. Each list of
entities gives both, apart from one another.
-/
namespace CloudInventory

namespace Value

/-- A map from its cells. -/
def object (cells : List (String × Value)) : Value :=
  .map (Dictionary.ofPairs cells)

def texts (items : List String) : Value :=
  .list (items.map .string)

def wholes (items : List Int64) : Value :=
  .list (items.map .int)

end Value

/-- The attribute of a result, which a read sets. -/
def Attribute.result (type : AttributeType) : Attribute where
  type
  computed := true

/-- The block of a result or of a part of one: a list whose elements hold some fields and some nested
blocks. -/
def Block.result (fields : List (String × AttributeType)) (blocks : List (String × Block)) :
    Block where
  nesting := .list
  attributes := Dictionary.ofPairs (fields.map (fun field => (field.1, .result field.2)))
  blocks := Dictionary.ofPairs blocks
  computed := true
  description := none
  validators := []

end CloudInventory
