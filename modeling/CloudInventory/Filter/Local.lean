import CloudInventory.Filter.Catalog
import CloudInventory.Pattern.Reader
import CloudInventory.Interaction
import CloudInventory.Text.Parts

/-!
Filtering on the spot: the entries that the vendor does not evaluate are compiled first, which fails
as a whole or not at all, and then every entity is kept that satisfies all of them.
-/
namespace CloudInventory

/-- How a text is tested against the values of an entry. -/
inductive Matcher where
  | exact (values : List String)
  | substring (values : List String)
  | regex (patterns : List Pattern.Regex)

/-- Whether a text matches one of the values. -/
def Matcher.accepts (text : String) : Matcher → Bool
  | .exact values => values.contains text
  | .substring values => values.any (fun v => Text.occursIn v.toList text.toList)
  | .regex patterns => patterns.any (fun p => p.isMatch text)

/-- A compiled entry. -/
structure Predicate (α : Type) where
  accessor : α → FieldValue
  matcher : Matcher

/-- Whether some leaf of the field of an entity matches. -/
def Predicate.holds {α : Type} (p : Predicate α) (entity : α) : Bool :=
  (p.accessor entity).anyScalar (fun text => p.matcher.accepts text)

namespace Catalog

variable {α ρ σ : Type}

/-- The expressions of patterns, or the error of the first that is none. -/
def compilePatterns : List String → Except FilterError (List Pattern.Regex)
  | [] => .ok []
  | pattern :: rest =>
    match Pattern.parse pattern with
    | .ok r => (compilePatterns rest).map (r :: ·)
    | .error fault => .error (.regex pattern fault)

def matcherOf (entry : Entry) : Except FilterError Matcher :=
  match entry.matchBy with
  | .exact => .ok (.exact entry.values)
  | .substring => .ok (.substring entry.values)
  | .regex => (compilePatterns entry.values).map .regex

/-- The predicate of an entry. -/
def compileEntry (catalog : Catalog α) (entry : Entry) : Except FilterError (Predicate α) := do
  let field ← catalog.field entry.name
  let matcher ← matcherOf entry
  pure ⟨field.accessor, matcher⟩

/-- The predicates of entries, or the error of the first that has none. -/
def compileEntries (catalog : Catalog α) : List Entry → Except FilterError (List (Predicate α))
  | [] => .ok []
  | entry :: rest => do
    let p ← catalog.compileEntry entry
    let ps ← compileEntries catalog rest
    pure (p :: ps)

/-- The entities that satisfy all predicates, looking for cancellation before each. -/
def keep (predicates : List (Predicate α)) : List α →
    Interaction ρ σ (Except FilterError (List α))
  | [] => .done (.ok [])
  | entity :: rest =>
    .poll (fun cancelled =>
      if cancelled then .done (.error .cancelled)
      else (keep predicates rest).map (fun kept =>
        kept.map (fun kept => if predicates.all (·.holds entity) then entity :: kept else kept)))

/-- The entities that satisfy the entries left to the read; without such entries all of them. -/
def filterHere (catalog : Catalog α) (filters : List Entry) (entities : List α) :
    Interaction ρ σ (Except FilterError (List α)) :=
  match catalog.compileEntries (catalog.localEntries filters) with
  | .error e => .done (.error e)
  | .ok [] => .done (.ok entities)
  | .ok predicates => keep predicates entities

end Catalog

end CloudInventory
