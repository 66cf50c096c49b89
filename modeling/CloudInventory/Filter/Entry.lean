/-!
Filter entries: a field name, values of which one has to match, and how they are compared.
-/
namespace CloudInventory

/-- How a value is compared with a field. -/
inductive MatchBy where
  | exact
  | substring
  | regex
  deriving DecidableEq, Repr, Inhabited

namespace MatchBy

/-- The spellings offered in messages. -/
def spellings : List String := ["exact", "substring", "sub", "regex", "re"]

def name : MatchBy → String
  | .exact => "exact"
  | .substring => "substring"
  | .regex => "regex"

/-- Reads a spelling in letters of either case; the empty text means an exact comparison. -/
def ofText? (s : String) : Option MatchBy :=
  let word := String.ofList (s.toList.map Char.toLower)
  if word = "" ∨ word = "exact" then some .exact
  else if word = "substring" ∨ word = "sub" then some .substring
  else if word = "regex" ∨ word = "re" then some .regex
  else none

/-- The place of a comparison among the others when entries are put in order. -/
def rank : MatchBy → Nat
  | .exact => 0
  | .substring => 1
  | .regex => 2

end MatchBy

/-- The direction in which a list is ordered. -/
inductive Order where
  | asc
  | desc
  deriving DecidableEq, Repr

namespace Order

def spellings : List String := ["asc", "desc"]

def name : Order → String
  | .asc => "asc"
  | .desc => "desc"

def ofText? (s : String) : Option Order :=
  if s = "asc" then some .asc else if s = "desc" then some .desc else none

end Order

/-- One filter entry. Entries are combined with "and", the values of one entry with "or". -/
structure Entry where
  name : String
  values : List String
  matchBy : MatchBy
  deriving DecidableEq, Repr

/-- The entry with each value once, where it stands first. -/
def Entry.of (name : String) (values : List String) (matchBy : MatchBy) : Entry :=
  ⟨name, values.eraseDups, matchBy⟩

end CloudInventory
