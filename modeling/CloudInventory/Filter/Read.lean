import CloudInventory.Filter.Header
import CloudInventory.Filter.Latest
import CloudInventory.Filter.Local
import CloudInventory.Filter.Query

/-!
A filtered read: check the query, have the list fetched with the filter that the vendor evaluates,
apply the other entries, and narrow the result to the most recent element when that is asked for.
A read that sees itself cancelled ends as cancelled, whatever the list brought.
-/
namespace CloudInventory.Catalog

variable {α ρ σ : Type}

/-- The filter to send for a query that is in order. -/
def checkedFilter (catalog : Catalog α) (filters : List Entry) (order : Option Order)
    (orderBy : Option String) : Except FilterError String := do
  catalog.checkQuery filters orderBy
  catalog.filterText filters order orderBy

/-- What becomes of the list once it has come or failed. -/
def afterList (catalog : Catalog α) (filters : List Entry) :
    Except String (List α) → Interaction ρ σ (Except FilterError (List α))
  | .error reason =>
    .poll (fun cancelled => .done (.error (if cancelled then .cancelled else .list reason)))
  | .ok entities =>
    .poll (fun cancelled =>
      if cancelled then .done (.error .cancelled) else catalog.filterHere filters entities)

/-- The entities that satisfy all entries. `list` fetches those that pass the filter it is given. -/
def listAndFilter (catalog : Catalog α) (list : String → Interaction ρ σ (Except String (List α)))
    (filters : List Entry) (order : Option Order) (orderBy : Option String) :
    Interaction ρ σ (Except FilterError (List α)) :=
  match catalog.checkedFilter filters order orderBy with
  | .error e => .done (.error e)
  | .ok filter =>
    .poll (fun cancelled =>
      if cancelled then .done (.error .cancelled)
      else (list filter).bind (catalog.afterList filters))

/-- Narrows entities to the most recent one, if that is asked for and can be told. -/
def narrow (latest : Bool) (key : Option (LatestKey α)) (entities : List α) :
    Except FilterError (List α) :=
  match key with
  | some key => if latest then (key.select entities).map Option.toList else .ok entities
  | none => .ok entities

/-- The result of a query. -/
def readQuery (catalog : Catalog α) (list : String → Interaction ρ σ (Except String (List α)))
    (query : Query) (key : Option (LatestKey α)) : Interaction ρ σ (Except FilterError (List α)) :=
  (catalog.listAndFilter list query.filters query.order query.orderBy).map (fun found =>
    found.bind (narrow query.latest key))

end CloudInventory.Catalog
