import CloudInventory.Schema.Basic

/-!
Outlines: a schema in lines of text, one for each attribute and block, indented by depth.
-/
namespace CloudInventory.Outline

/-- How far the lines of a depth are indented. -/
def indent (depth : Nat) : String :=
  String.ofList (List.replicate (2 * depth) ' ')

def attributeLine (depth : Nat) (name : String) (a : Attribute) : String :=
  let mode := if a.required then "required" else if a.computed then "computed" else "optional"
  indent depth ++ name ++ " (" ++ a.type.name ++ ", " ++ mode ++ ")"
    ++ match a.description with
      | some description => " - " ++ description
      | none => ""

def attributeLines (depth : Nat) (attributes : List (String × Attribute)) : List String :=
  attributes.map (fun a => attributeLine depth a.1 a.2)

mutual

def blockLines (depth : Nat) (name : String) : Block → List String
  | ⟨nesting, attributes, blocks, computed, _, _⟩ =>
    (indent depth ++ name ++ " \x7b\x7d (" ++ nesting.name ++ " block, "
        ++ (if computed then "computed" else "optional") ++ ")")
      :: attributeLines (depth + 1) attributes ++ blocksLines (depth + 1) blocks

def blocksLines (depth : Nat) : List (String × Block) → List String
  | [] => []
  | (name, block) :: rest => blockLines depth name block ++ blocksLines depth rest

end

/-- The outline of a schema. -/
def lines (schema : Schema) : List String :=
  schema.name :: (schema.description.map (indent 1 ++ ·)).toList
    ++ attributeLines 1 schema.attributes ++ blocksLines 1 schema.blocks

end CloudInventory.Outline
