import CloudInventory.Filter.Catalog
import CloudInventory.Json.Writer

/-!
The filter that is sent to the vendor: one clause for each entry that the vendor evaluates, all of
which have to hold, with one alternative for each value, and the order of the list.
-/
namespace CloudInventory.Catalog

variable {α : Type}

/-- The alternatives of an entry. -/
def clause (entry : Entry) : Json :=
  .object [("+or", .array (entry.values.map (fun v => .object [(entry.name, .string v)])))]

/-- The clauses of the entries that the vendor evaluates. -/
def clauses (catalog : Catalog α) (filters : List Entry) : List Json :=
  (filters.filter catalog.isRemoteEntry).map clause

/-- The filter as a document; without an order the list descends. -/
def filterDocument (catalog : Catalog α) (filters : List Entry) (order : Option Order)
    (orderBy : Option String) : Json :=
  .object ([("+and", .array (catalog.clauses filters)),
    ("+order", .string (order.getD .desc).name)]
    ++ orderBy.toList.map (fun name => ("+order_by", .string name)))

/-- The text of the filter; every entry must name a field. -/
def filterText (catalog : Catalog α) (filters : List Entry) (order : Option Order)
    (orderBy : Option String) : Except FilterError String := do
  catalog.checkNames filters
  pure (catalog.filterDocument filters order orderBy).compact

end CloudInventory.Catalog
