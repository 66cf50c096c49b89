import CloudInventory.Dictionary
import CloudInventory.Digest.Sha256
import CloudInventory.Filter.Entry
import CloudInventory.Json.Writer

/-!
The identifier of a set of filter entries. It depends on which entries there are and which values
each has, and not on their order or on repetitions: entries and values are put in order, each once,
before they are written down and digested.
-/
namespace CloudInventory.Entry

/-- The entry with its values in order, each once. -/
def canonical (e : Entry) : Entry :=
  { e with values := distinctTexts e.values }

/-- Entries are ordered by name, then values, then comparison. -/
def cmp (a b : Entry) : Ordering :=
  (compare a.name b.name).then
    ((compare a.values b.values).then (compare a.matchBy.rank b.matchBy.rank))

/-- The entries in order, each once. -/
def canonicalSet (entries : List Entry) : List Entry :=
  ((entries.map canonical).mergeSort (fun a b => (cmp a b).isLE)).eraseReps

def toJson (e : Entry) : Json :=
  .object [("name", .string e.name), ("values", .array (e.values.map Json.string)),
    ("match_by", .string e.matchBy.name)]

/-- The text that is digested. -/
def canonicalText (entries : List Entry) : String :=
  (Json.array ((canonicalSet entries).map toJson)).compact

/-- The identifier of a set of entries. -/
def fingerprint (entries : List Entry) : String :=
  (Sha256.digest (canonicalText entries).toUTF8.data.toList).toHex

end CloudInventory.Entry
