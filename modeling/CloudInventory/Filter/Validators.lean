import CloudInventory.Filter.Catalog
import CloudInventory.Schema.Basic

/-!
The schema of the filter part of a configuration. Its validators refuse, with the same message, what
would later be refused as a query.
-/
namespace CloudInventory.Catalog

variable {α : Type}

def nameValidator (catalog : Catalog α) : Validator where
  description := "name must be a filterable field"
  check
    | .string name =>
      if catalog.names.contains name then .ok () else .error (catalog.unknownField name).message
    | _ => .ok ()

def orderByValidator (catalog : Catalog α) : Validator where
  description := "order_by must be an api-filterable field"
  check
    | .string name =>
      if catalog.remoteNames.contains name then .ok ()
      else .error (catalog.unsupportedOrderBy name).message
    | _ => .ok ()

def matchByValidator : Validator where
  description := "match_by must be one of: " ++ ", ".intercalate MatchBy.spellings
  check
    | .string s =>
      if (MatchBy.ofText? s).isSome then .ok () else .error (Misuse.unknownMatchBy s).message
    | _ => .ok ()

def orderValidator : Validator where
  description := "order must be one of: " ++ ", ".intercalate Order.spellings
  check
    | .string s =>
      if (Order.ofText? s).isSome then .ok () else .error (Misuse.unknownOrder s).message
    | _ => .ok ()

/-- The comparison that a filter block asks for, exact when it does not say. -/
def matchByOfBlock (block : Dictionary Value) : MatchBy :=
  match block.get? "match_by" with
  | some (.string s) => (MatchBy.ofText? s).getD .exact
  | _ => .exact

/-- The texts among the values of a filter block. -/
def textsOfBlock (block : Dictionary Value) : List String :=
  match block.get? "values" with
  | some (.list items) => items.filterMap Value.asString?
  | _ => []

/-- The first text that does not suit a field. -/
def checkTexts (name : String) (type : FilterType) : List String → Except String Unit
  | [] => .ok ()
  | s :: rest =>
    match type.check s with
    | .ok () => checkTexts name type rest
    | .error message => .error (message ++ " for filter \"" ++ name ++ "\"")

/-- The values of an exact comparison must suit the field. -/
def checkBlock (catalog : Catalog α) (block : Dictionary Value) : Except String Unit :=
  match block.get? "name" with
  | some (.string name) =>
    match catalog.types.get? name with
    | some type =>
      if matchByOfBlock block = .exact then checkTexts name type (textsOfBlock block)
      else .ok ()
    | none => .ok ()
  | _ => .ok ()

def valuesValidator (catalog : Catalog α) : Validator where
  description := "filter values must match the field type"
  check
    | .map block => catalog.checkBlock block
    | _ => .ok ()

/-- The block that holds filter entries. -/
def filterBlock (catalog : Catalog α) : Block where
  nesting := .set
  attributes := Dictionary.ofPairs [
    ("name", {
      type := .string, required := true
      description := some "The name of the field to filter by."
      validators := [catalog.nameValidator] }),
    ("values", {
      type := .set .string, required := true
      description := some "The value(s) to be used in the filter."
      validators := [.nonEmptyList] }),
    ("match_by", {
      type := .string, defaultValue := some (.string MatchBy.exact.name)
      description := some "The type of comparison to use: exact, substring or regex."
      validators := [matchByValidator] })]
  blocks := []
  computed := false
  description :=
    some "Entries are combined with AND; the values of one entry are combined with OR."
  validators := [catalog.valuesValidator]

def orderAttribute : Attribute where
  type := .string
  defaultValue := some (.string Order.desc.name)
  description := some "The order in which results should be returned: asc or desc."
  validators := [orderValidator]

def orderByAttribute (catalog : Catalog α) : Attribute where
  type := .string
  description := some "The attribute to order the results by."
  validators := [catalog.orderByValidator]

def latestAttribute : Attribute where
  type := .bool
  defaultValue := some (.bool false)
  description := some "If true, only the most recent element is returned."

def idAttribute : Attribute where
  type := .string
  computed := true
  description := some "Deterministic digest of the filter set."

end CloudInventory.Catalog
