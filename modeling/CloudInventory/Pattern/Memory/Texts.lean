import CloudInventory.Pattern.Memory.Part

/-!
Alternatives that are texts: one tree of bytes, in which texts share what they begin with. Where a
text ends and others go on, those that come before it and after it are kept apart, for it is
preferred to the ones after it.
-/
namespace CloudInventory.Pattern

/-- Parts texts at the empty ones. -/
def partAtEnds : List (List Nat) → List (List (List Nat))
  | [] => [[]]
  | text :: texts =>
    match partAtEnds texts with
    | [] => [[text]]
    | chunk :: chunks => if text.isEmpty then [] :: chunk :: chunks else (text :: chunk) :: chunks

/-- The chunks of the texts at one place of the tree. That a text ends before any goes on counts
once. -/
def chunksAt (texts : List (List Nat)) : List (List (List Nat)) :=
  match texts with
  | [] :: rest => partAtEnds ([] :: rest.dropWhile List.isEmpty)
  | texts => partAtEnds texts

/-- The bytes with which texts begin. -/
def firstBytes (texts : List (List Nat)) : List Nat :=
  (texts.filterMap List.head?).eraseDups

/-- What follows a byte in the texts that begin with it. -/
def after (byte : Nat) (texts : List (List Nat)) : List (List Nat) :=
  texts.filterMap (fun
    | [] => none
    | b :: rest => if b = byte then some rest else none)

/-- The tree of texts of at most the given length: a fork at each place for its chunks and for the
texts that end there, and a state for each chunk. -/
def treePart : Nat → List (List Nat) → Part
  | 0, _ => some
  | length + 1, texts =>
    let chunks := chunksAt texts
    let going := chunks.filter (fun chunk => !chunk.isEmpty)
    if going.isEmpty then some
    else
      let parts := going.map (fun chunk =>
        let bytes := firstBytes chunk
        let inner := bytes.foldr (fun byte rest => treePart length (after byte chunk) >=> rest) some
        inner >=> Part.add 1 (if bytes.length < 2 then 0 else bytes.length * rangeMemory))
      parts.foldr (· >=> ·) some >=> Part.fork (going.length + (chunks.length - 1))

/-- The part of alternatives that are texts, given by their bytes. -/
def textsPart (texts : List (List Nat)) : Part :=
  let length := texts.foldl (fun n text => max n text.length) 0
  Part.state >=> treePart (length + 1) texts

end CloudInventory.Pattern
