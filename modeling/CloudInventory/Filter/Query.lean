import CloudInventory.Filter.Error
import CloudInventory.Value

/-!
Queries: the filter entries of a configuration, the order asked for, and whether only the most
recent element is wanted. Decoding stops at the first malformed part and names its place.
-/
namespace CloudInventory

structure Query where
  filters : List Entry
  order : Option Order
  orderBy : Option String
  latest : Bool
  deriving DecidableEq, Repr

namespace Query

/-- A fault of the query at a place. -/
def misuse {α : Type} (cause : Misuse) (path : Path) : Except FilterError α :=
  .error (.configuration cause (some path))

def nameOf (path : Path) : Option Value → Except FilterError String
  | some (.string s) => .ok s
  | _ => misuse .nameNotString (path ++ [.key "name"])

/-- The texts of a list of values, counted from `index`. -/
def textsOf (path : Path) (index : Nat) : List Value → Except FilterError (List String)
  | [] => .ok []
  | .string s :: rest => (textsOf path (index + 1) rest).map (s :: ·)
  | _ :: _ => misuse .valueNotString (path ++ [.index index])

def valuesOf (path : Path) : Option Value → Except FilterError (List String)
  | some (.list (item :: rest)) => textsOf (path ++ [.key "values"]) 0 (item :: rest)
  | _ => misuse .noValues (path ++ [.key "values"])

def matchByOf (path : Path) : Option Value → Except FilterError MatchBy
  | none | some .null => .ok .exact
  | some (.string s) =>
    match MatchBy.ofText? s with
    | some m => .ok m
    | none => misuse (.unknownMatchBy s) (path ++ [.key "match_by"])
  | some _ => misuse .matchByNotString (path ++ [.key "match_by"])

/-- The entry that a filter block spells. -/
def entryOf (path : Path) : Value → Except FilterError Entry
  | .map fields => do
    let name ← nameOf path (Dictionary.get? fields "name")
    let values ← valuesOf path (Dictionary.get? fields "values")
    let matchBy ← matchByOf path (Dictionary.get? fields "match_by")
    pure (.of name values matchBy)
  | _ => misuse .entryNotObject path

/-- The entries of filter blocks, counted from `index`. -/
def entriesOf (index : Nat) : List Value → Except FilterError (List Entry)
  | [] => .ok []
  | item :: rest => do
    let entry ← entryOf [.key "filter", .index index] item
    let entries ← entriesOf (index + 1) rest
    pure (entry :: entries)

def filtersOf : Option Value → Except FilterError (List Entry)
  | none | some .null => .ok []
  | some (.list items) => entriesOf 0 items
  | some _ => misuse .filterNotList [.key "filter"]

def orderOf : Option Value → Except FilterError (Option Order)
  | none | some .null => .ok none
  | some (.string s) =>
    match Order.ofText? s with
    | some o => .ok (some o)
    | none => misuse (.unknownOrder s) [.key "order"]
  | some _ => misuse .orderNotString [.key "order"]

def orderByOf : Option Value → Except FilterError (Option String)
  | none | some .null => .ok none
  | some (.string s) => .ok (some s)
  | some _ => misuse .orderByNotString [.key "order_by"]

def latestOf : Option Value → Except FilterError Bool
  | none | some .null => .ok false
  | some (.bool b) => .ok b
  | some _ => misuse .latestNotBool [.key "latest"]

/-- The query that a configuration spells. -/
def ofConfig (config : Config) : Except FilterError Query := do
  let filters ← filtersOf (config.get? "filter")
  let order ← orderOf (config.get? "order")
  let orderBy ← orderByOf (config.get? "order_by")
  let latest ← latestOf (config.get? "latest")
  pure ⟨filters, order, orderBy, latest⟩

end Query

end CloudInventory
