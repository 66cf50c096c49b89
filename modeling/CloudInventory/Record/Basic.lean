import CloudInventory.Record.Reader

/-!
Records in documents. A record is an object with one member for each part of it, or an array of the
parts in the order in which they are declared. Of an object the members are read in the order in
which they stand, and those that no part has asked for are passed over; only when none of them is
wrong is an absent one missed, the first in the order declared. Parts that have a stand-in may be
absent.
-/
namespace CloudInventory

/-- How the parts declared so far are read, and what is made of them. -/
structure RecordReader (α : Type) where
  /-- How many parts there are. -/
  width : Nat
  /-- What is wrong with a document as the member of a name, if that is a part and it is wrong. -/
  misfit? : String → Json → Option Misfit
  /-- Reads the parts from the members of an object. -/
  fromMembers : Dictionary Json → Except Misfit α
  /-- Reads the parts from the front of a list of items. The error for a list that ends too early
  is made of the position at which it ends. -/
  fromItems : (Nat → Misfit) → List Json → Except Misfit (α × List Json)

namespace RecordReader

variable {α β : Type}

/-- No part yet. -/
def of (make : α) : RecordReader α where
  width := 0
  misfit? _ _ := none
  fromMembers _ := .ok make
  fromItems _ items := .ok (make, items)

/-- What is wrong with a document, if something is. -/
def misfitOf (read : Reader α) (document : Json) : Option Misfit :=
  match read document with
  | .ok _ => none
  | .error misfit => some misfit

/-- What stands for an absent part, or the error that it is missing. -/
def absentOr (absent : Option α) (misfit : Misfit) : Except Misfit α :=
  match absent with
  | some a => .ok a
  | none => .error misfit

/-- Declares the next part. -/
def part (r : RecordReader (α → β)) (name : String) (read : Reader α) (absent : Option α) :
    RecordReader β where
  width := r.width + 1
  misfit? key document := if key = name then misfitOf read document else r.misfit? key document
  fromMembers members := do
    let f ← r.fromMembers members
    let a ← match members.get? name with
      | some document => read document
      | none => absentOr absent (.missingMember name)
    pure (f a)
  fromItems short items := do
    let (f, rest) ← r.fromItems short items
    match rest with
    | document :: rest =>
      let a ← read document
      pure (f a, rest)
    | [] =>
      let a ← absentOr absent (short r.width)
      pure (f a, [])

/-- Declares a part that may not be absent. -/
def required (r : RecordReader (α → β)) (name : String) (read : Reader α) : RecordReader β :=
  r.part name read none

/-- Declares a part with what stands for it when it is absent. -/
def defaulted (r : RecordReader (α → β)) (name : String) (read : Reader α) (absent : α) :
    RecordReader β :=
  r.part name read (some absent)

/-- Declares a part that may be null or absent. -/
def optional (r : RecordReader (Option α → β)) (name : String) (read : Reader α) :
    RecordReader β :=
  r.part name (Reader.optional read) (some none)

/-- Reads a record, which has this name in messages. -/
def reader (r : RecordReader α) (record : String) : Reader α
  | .object members =>
    match members.findSome? (fun m => r.misfit? m.1 m.2) with
    | some misfit => .error misfit
    | none => r.fromMembers members
  | .array items => do
    let (a, rest) ← r.fromItems (.tooFewItems · record r.width) items
    if rest.isEmpty then pure a else .error (.tooManyItems items.length)
  | found => .error (.wrongKind found ("struct " ++ record))

end RecordReader

end CloudInventory
