import CloudInventory.Binary64.Reading
import CloudInventory.Dictionary
import CloudInventory.Filter.Error
import CloudInventory.Text.Integer

/-!
Catalogs: the fields by which entities of one kind can be filtered. Of each field the catalog says
whether the vendor can filter by it, which values suit it, and how it is found in an entity. When a
name is registered more than once, the first registration stands.
-/
namespace CloudInventory

/-- The values that suit a field. -/
inductive FilterType where
  | string
  | int
  | bool
  | float
  deriving DecidableEq, Repr

namespace FilterType

def name : FilterType → String
  | .string => "string"
  | .int => "int"
  | .bool => "bool"
  | .float => "float"

/-- The name in a listing of parts. -/
def listing : FilterType → String
  | .string => "String"
  | .int => "Int"
  | .bool => "Bool"
  | .float => "Float"

def accepts : FilterType → String → Bool
  | .string, _ => true
  | .int, s => (Text.int64? s).isSome
  | .bool, s => s = "true" || s = "false"
  | .float, s => (Binary64.ofText? s).isSome

def check (type : FilterType) (s : String) : Except String Unit :=
  if type.accepts s then .ok ()
  else .error ("\"" ++ s ++ "\" is not a valid " ++ type.name ++ " value")

end FilterType

/-- One field of a catalog. -/
structure FilterField (α : Type) where
  /-- Whether the vendor can filter and order by the field. -/
  remote : Bool
  type : FilterType
  accessor : α → FieldValue

/-- How a field is shown in a listing of parts. -/
def FilterField.listing {α : Type} (f : FilterField α) : String :=
  "FilterAttribute \x7b api_filterable: " ++ (if f.remote then "true" else "false")
    ++ ", filter_type: " ++ f.type.listing ++ " \x7d"

structure Catalog (α : Type) where
  fields : Dictionary (FilterField α)

namespace Catalog

variable {α : Type}

def ofList (registrations : List (String × FilterField α)) : Catalog α :=
  ⟨registrations.foldl (fun fields r => Dictionary.insertNew r.1 r.2 fields) []⟩

/-- A field that the vendor can filter by. -/
def remote (name : String) (type : FilterType) (accessor : α → FieldValue) :
    String × FilterField α :=
  (name, ⟨true, type, accessor⟩)

/-- A field that only a read can filter by. -/
def here (name : String) (type : FilterType) (accessor : α → FieldValue) :
    String × FilterField α :=
  (name, ⟨false, type, accessor⟩)

def get? (catalog : Catalog α) (name : String) : Option (FilterField α) :=
  catalog.fields.get? name

def contains (catalog : Catalog α) (name : String) : Bool :=
  (catalog.get? name).isSome

def isRemote (catalog : Catalog α) (name : String) : Bool :=
  (catalog.get? name).any FilterField.remote

/-- All names, in order. -/
def names (catalog : Catalog α) : List String :=
  catalog.fields.keys

/-- The names that the vendor can filter by, in order. -/
def remoteNames (catalog : Catalog α) : List String :=
  (catalog.fields.filter (fun (_, f) => f.remote)).map Prod.fst

/-- The types of all fields, without what is needed to find the fields in an entity. -/
def types (catalog : Catalog α) : Dictionary FilterType :=
  catalog.fields.map (fun (name, f) => (name, f.type))

@[simp] theorem get?_types (catalog : Catalog α) (name : String) :
    catalog.types.get? name = (catalog.get? name).map FilterField.type := by
  obtain ⟨fields⟩ := catalog
  induction fields with
  | nil => rfl
  | cons field rest ih =>
    obtain ⟨key, f⟩ := field
    simp only [types, get?, List.map_cons, Dictionary.get?_cons] at ih ⊢
    split
    · rfl
    · exact ih

def unknownField (catalog : Catalog α) (name : String) : Misuse :=
  .unknownField name catalog.names

def unsupportedOrderBy (catalog : Catalog α) (name : String) : Misuse :=
  .unsupportedOrderBy name catalog.remoteNames

/-- The field of a name, or the error that there is none. -/
def field (catalog : Catalog α) (name : String) : Except FilterError (FilterField α) :=
  match catalog.get? name with
  | some f => .ok f
  | none => .error (.configuration (catalog.unknownField name) none)

/-- The value of a field of an entity. -/
def resolve (catalog : Catalog α) (entity : α) (name : String) : Except FilterError FieldValue :=
  (catalog.field name).map (fun f => f.accessor entity)

/-- Whether the vendor evaluates an entry. -/
def isRemoteEntry (catalog : Catalog α) (entry : Entry) : Bool :=
  entry.matchBy = .exact && catalog.isRemote entry.name

/-- Names of entries that are in the catalog. -/
def checkNames (catalog : Catalog α) : List Entry → Except FilterError Unit
  | [] => .ok ()
  | entry :: rest =>
    if catalog.contains entry.name then checkNames catalog rest
    else .error (.configuration (catalog.unknownField entry.name) none)

def checkOrderBy (catalog : Catalog α) : Option String → Except FilterError Unit
  | none => .ok ()
  | some name =>
    if catalog.isRemote name then .ok ()
    else .error (.configuration (catalog.unsupportedOrderBy name) none)

/-- Every entry names a field, and the order goes by one the vendor can order by. -/
def checkQuery (catalog : Catalog α) (filters : List Entry) (orderBy : Option String) :
    Except FilterError Unit := do
  catalog.checkNames filters
  catalog.checkOrderBy orderBy

/-- The entries that a read evaluates itself. -/
def localEntries (catalog : Catalog α) (filters : List Entry) : List Entry :=
  filters.filter (fun entry => !catalog.isRemoteEntry entry)

/-- How a catalog is shown in a listing of parts. -/
def listing (catalog : Catalog α) : String :=
  "\x7b" ++ ", ".intercalate (catalog.fields.map (fun (name, f) =>
    Text.quoted name ++ ": " ++ f.listing)) ++ "\x7d"

end Catalog

end CloudInventory
