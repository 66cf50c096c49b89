import CloudInventory.Pattern.Reader.Escapes

/-!
Reading bracketed classes: characters, ranges, escapes, named classes and nested classes, with
intersections and differences between them.
-/
namespace CloudInventory.Pattern

/-- A part of a class: its set, how many items it was given by, and how deeply they are nested. -/
structure ClassPart where
  set : CodeRanges := []
  items : Nat := 0
  depth : Nat := 0

namespace ClassPart

/-- Adds an item. -/
def add (part : ClassPart) (set : CodeRanges) (depth : Nat) : ClassPart :=
  ⟨part.set.union set, part.items + 1, max part.depth depth⟩

/-- The depth of all items together; two or more form a union. -/
def unionDepth (part : ClassPart) : Nat :=
  if part.items < 2 then part.depth else part.depth + 1

end ClassPart

inductive SetOperation where
  | inter
  | difference
  | symmetricDifference
  deriving DecidableEq, Repr

def SetOperation.apply : SetOperation → CodeRanges → CodeRanges → CodeRanges
  | .inter => CodeRanges.inter
  | .difference => CodeRanges.difference
  | .symmetricDifference => CodeRanges.symmetricDifference

/-- A set closed under case where the flags ask for it. -/
def folded (set : CodeRanges) : Reader CodeRanges := do
  let f ← flags
  if !f.ignoreCase then return set
  else return if f.unicode then foldCase set else foldAscii set

/-- What stands before a set operation, joined to what stands after it. -/
def joinSides (left : Option (SetOperation × CodeRanges × Nat)) (right : ClassPart) :
    Reader (CodeRanges × Nat) := do
  match left with
  | none => return (right.set, right.unionDepth)
  | some (operation, set, depth) =>
    return (operation.apply (← folded set) (← folded right.set), max depth right.unionDepth + 1)

/-- A character as a member of a class; a class of bytes has ASCII members only. -/
def member (c : Char) : Reader Nat := do
  if (← flags).unicode || c.toNat < 128 then return c.toNat else failure

/-- Reads one character or escape of a class. -/
def readMember : Reader Atom := do
  let c ← next
  if c = '\\' then readEscape else return .literal c false

/-- Reads a range, a character or a class escape. -/
def readRange : Reader CodeRanges := do
  let first ← readMember
  skipBlanks
  let cs ← rest
  let afterDash := if (← flags).extended then dropExtended false cs.tail else cs.tail
  match cs with
  | [] => failure
  | c :: _ =>
    if c != '-' || afterDash.head? = some ']' || afterDash.head? = some '-' then
      match first with
      | .literal c _ =>
        let code ← member c
        return [(code, code)]
      | .set set => return set
      | .look _ => failure
    else
      advanceOver
      if (← peek).isNone then failure
      match first, ← readMember with
      | .literal lo _, .literal hi _ =>
        let lo ← member lo
        let hi ← member hi
        if lo ≤ hi then return [(lo, hi)] else failure
      | _, _ => failure

/-- Reads a named ASCII class if one stands next, as in `[:alpha:]` or `[:^alpha:]`. -/
def readNamed? : Reader (Option CodeRanges) := do
  let start ← rest
  if !(← accept ['[', ':']) then return none
  let negated ← accept ['^']
  let cs ← rest
  let name := cs.takeWhile (· != ':')
  setRest (cs.drop name.length)
  if ← accept [':', ']'] then
    match asciiClass? (String.ofList name) with
    | some set => return some (← orOthers negated (← folded (CodeRanges.ofList set)))
    | none => setRest start; return none
  else
    setRest start
    return none

/-- Reads the dashes, and failing these the closing bracket, with which a class may begin. -/
def readLeading : Reader ClassPart := do
  let cs ← rest
  let dashes := cs.takeWhile (· = '-')
  setRest (cs.drop dashes.length)
  if dashes.isEmpty then
    if ← accept [']'] then
      skipBlanks
      return ⟨[(93, 93)], 1, 0⟩
    else return {}
  else
    skipBlanks
    return ⟨[(45, 45)], dashes.length, 0⟩

mutual

/-- Reads a class after its opening bracket. -/
def readClass : Nat → Reader (CodeRanges × Nat)
  | 0 => failure
  | fuel + 1 => do
    skipBlanks
    let negated ← accept ['^']
    skipBlanks
    let part ← readLeading
    let (set, depth) ← readClassItems fuel none part
    return (← orOthers negated (← folded set), depth + 1)

/-- Reads the items of a class up to its closing bracket. -/
def readClassItems : Nat → Option (SetOperation × CodeRanges × Nat) → ClassPart →
    Reader (CodeRanges × Nat)
  | 0, _, _ => failure
  | fuel + 1, left, part => do
    skipBlanks
    if ← accept [']'] then joinSides left part
    else if ← accept ['&', '&'] then
      let (set, depth) ← joinSides left part
      readClassItems fuel (some (.inter, set, depth)) {}
    else if ← accept ['-', '-'] then
      let (set, depth) ← joinSides left part
      readClassItems fuel (some (.difference, set, depth)) {}
    else if ← accept ['~', '~'] then
      let (set, depth) ← joinSides left part
      readClassItems fuel (some (.symmetricDifference, set, depth)) {}
    else
      match ← readNamed? with
      | some set => readClassItems fuel left (part.add set 0)
      | none =>
        if ← accept ['['] then
          let (set, depth) ← readClass fuel
          readClassItems fuel left (part.add set depth)
        else readClassItems fuel left (part.add (← readRange) 0)

end

end CloudInventory.Pattern
