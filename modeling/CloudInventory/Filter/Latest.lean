import CloudInventory.Filter.Error
import CloudInventory.Version

/-!
The most recent of several elements, by a field that holds a timestamp or a version. An element
whose field is null is passed over; of equally recent ones the first is chosen.
-/
namespace CloudInventory

inductive LatestKind where
  | timestamp
  | version
  deriving DecidableEq, Repr

structure LatestKey (α : Type) where
  /-- The name of the field in messages. -/
  field : String
  kind : LatestKind
  accessor : α → FieldValue

namespace LatestKey

variable {α κ : Type}

/-- How a key is shown in a listing of parts. -/
def listing (key : LatestKey α) : String :=
  "LatestKey \x7b field: " ++ Text.quoted key.field ++ ", kind: "
    ++ (match key.kind with | .timestamp => "Timestamp" | .version => "Version") ++ " \x7d"

/-- The text of the field, none when it is null. -/
def text (key : LatestKey α) (item : α) : Except FilterError (Option String) :=
  match key.accessor item with
  | .null => .ok none
  | .string s => .ok (some s)
  | other => .error (.latest (.notString key.field other))

def parseTimestamp (s : String) : Except FilterError Time.Instant :=
  match Time.parse s with
  | .ok instant => .ok instant
  | .error fault => .error (.latest (.timestamp s fault))

def parseVersion (s : String) : Except FilterError Version :=
  match Version.parse? s with
  | some v => .ok v
  | none => .error (.latest (.version s))

/-- The key of an element, read by `parse`. -/
def read (key : LatestKey α) (parse : String → Except FilterError κ) (item : α) :
    Except FilterError (Option κ) := do
  match ← key.text item with
  | none => pure none
  | some s => (parse s).map some

/-- The elements that have a key, with it; or the error of the first key that cannot be read. -/
def keyed (key : LatestKey α) (parse : String → Except FilterError κ) :
    List α → Except FilterError (List (α × κ))
  | [] => .ok []
  | item :: rest => do
    let k ← key.read parse item
    let others ← keyed key parse rest
    pure (k.toList.map (item, ·) ++ others)

/-- The first element that none is after. -/
def firstGreatest (before : κ → κ → Bool) (best : α × κ) : List (α × κ) → α × κ
  | [] => best
  | next :: rest => firstGreatest before (if before best.2 next.2 then next else best) rest

/-- The first of the greatest keys, if there is a key. -/
def selectBy (key : LatestKey α) (parse : String → Except FilterError κ)
    (before : κ → κ → Bool) (items : List α) : Except FilterError (Option α) := do
  match ← key.keyed parse items with
  | [] => pure none
  | first :: rest => pure (some (firstGreatest before first rest).1)

/-- The most recent element. -/
def select (key : LatestKey α) (items : List α) : Except FilterError (Option α) :=
  match key.kind with
  | .timestamp => key.selectBy parseTimestamp Time.Instant.before items
  | .version => key.selectBy parseVersion Version.before items

end LatestKey

end CloudInventory
