import CloudInventory.Api.Page
import CloudInventory.Filter.Fingerprint
import CloudInventory.Filter.Read
import CloudInventory.Filter.Validators
import CloudInventory.Provider.Error
import CloudInventory.Schema.Findings
import CloudInventory.Source.Results

/-!
Data sources: one list of a vendor as something to be queried. A configuration is validated before
anything is asked of the vendor. A plan tells what a read would send, and a read fetches the list,
narrows it, and returns the configuration with the rows of the result and the identifier of the
filters.
-/
namespace CloudInventory

/-- The list of entities `α`. -/
structure Source (α : Type) where
  name : String
  description : String
  endpoint : String
  reader : Reader α
  catalog : Catalog α
  /-- The name of the block that holds the result. -/
  results : String
  /-- What the result holds of an entity. -/
  row : α → Value
  /-- What the result is declared to hold of each entity. -/
  block : Block
  /-- What tells the most recent entity, if that can be asked for. -/
  latestKey : Option (LatestKey α) := none

/-- What a read would send and evaluate. -/
structure Plan where
  id : String
  /-- The filter that the vendor evaluates. -/
  filter : String
  /-- The names of the entries that the read evaluates itself. -/
  localFilters : List String
  latest : Bool
  deriving DecidableEq, Repr

/-- What a read leaves behind. -/
structure Snapshot where
  id : ResourceId
  /-- The identifier of the filters. -/
  identifier : String
  attributes : Config

namespace Source

variable {α ρ σ : Type}

def schema (source : Source α) : Schema where
  name := source.name
  description := some source.description
  attributes := Dictionary.ofPairs ([
      ("id", Catalog.idAttribute),
      ("order", Catalog.orderAttribute),
      ("order_by", source.catalog.orderByAttribute)]
    ++ if source.latestKey.isSome then [("latest", Catalog.latestAttribute)] else [])
  blocks := Dictionary.ofPairs [
    ("filter", source.catalog.filterBlock),
    (source.results, source.block)]

def validate (source : Source α) (config : Config) : Diagnostics :=
  source.schema.validate config

/-- An error of the filters as the outcome of a plan or a read. -/
def diagnosed {β : Type} : Except FilterError β → Except Diagnostics β
  | .ok b => .ok b
  | .error e => .error [e.toDiagnostic]

/-- The query that a configuration spells, if the configuration is valid. -/
def checkedQuery (source : Source α) (config : Config) : Except Diagnostics Query := do
  let found := source.validate config
  if found.hasError then .error found
  else
    let query ← diagnosed (Query.ofConfig config)
    diagnosed (source.catalog.checkQuery query.filters query.orderBy)
    pure query

def plan (source : Source α) (config : Config) : Except Diagnostics Plan := do
  let query ← source.checkedQuery config
  let filter ← diagnosed (source.catalog.filterText query.filters query.order query.orderBy)
  pure {
    id := Entry.fingerprint query.filters
    filter
    localFilters := (source.catalog.localEntries query.filters).map Entry.name
    latest := query.latest && source.latestKey.isSome }

/-- Fetches the entities that pass a filter. -/
def list (source : Source α) (pageSize : UInt32) (filter : String) :
    Interaction Request Reply (Except String (List α)) :=
  (Listing.all source.endpoint pageSize filter source.reader).map
    (Except.mapError ApiError.message)

/-- The entities that a query finds. -/
def find (source : Source α) (pageSize : UInt32) (query : Query) :
    Interaction Request Reply (Except FilterError (List α)) :=
  source.catalog.readQuery (source.list pageSize) query source.latestKey

/-- The configuration together with the identifier and the rows of the entities found. -/
def snapshot (source : Source α) (id : ResourceId) (config : Config) (identifier : String)
    (entities : List α) : Snapshot where
  id
  identifier
  attributes := (config.insert "id" (.string identifier)).insert source.results
    (.list (entities.map source.row))

def read (source : Source α) (pageSize : UInt32) (id : ResourceId) (config : Config) :
    Interaction Request Reply (Except Diagnostics Snapshot) :=
  match source.checkedQuery config with
  | .error found => .done (.error found)
  | .ok query =>
    (source.find pageSize query).map (fun entities =>
      (diagnosed entities).map
        (source.snapshot id config (Entry.fingerprint query.filters)))

end Source

end CloudInventory
