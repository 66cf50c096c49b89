import CloudInventory.Record.Misfit

/-!
Readers: how a document is read as a value of a given kind, or why it cannot be.
-/
namespace CloudInventory

/-- Reads an `α` from a document. -/
abbrev Reader (α : Type) := Json → Except Misfit α

namespace Reader

variable {α : Type}

def text : Reader String
  | .string s => .ok s
  | found => .error (.wrongKind found "a string")

def flag : Reader Bool
  | .bool b => .ok b
  | found => .error (.wrongKind found "a boolean")

/-- A whole number that a machine integer holds. -/
def whole : Reader Int64
  | .int n =>
    if Int64.minValue.toInt ≤ n ∧ n ≤ Int64.maxValue.toInt then .ok (Int64.ofInt n)
    else .error (.outOfRange n)
  | found => .error (.wrongKind found "i64")

/-- Any number, whole numbers rounded to the nearest floating-point number. -/
def real : Reader Binary64
  | .int n => .ok (.ofInt n)
  | .float x => .ok x
  | found => .error (.wrongKind found "f64")

/-- Null reads as nothing. -/
def optional (read : Reader α) : Reader (Option α)
  | .null => .ok none
  | document => (read document).map some

/-- All items, or what is wrong with the first that cannot be read. -/
def items (read : Reader α) : List Json → Except Misfit (List α)
  | [] => .ok []
  | item :: rest => do
    let a ← read item
    let others ← items read rest
    pure (a :: others)

def list (read : Reader α) : Reader (List α)
  | .array elements => items read elements
  | found => .error (.wrongKind found "a sequence")

/-- The document itself. -/
def document : Reader Json := .ok

end Reader

end CloudInventory
