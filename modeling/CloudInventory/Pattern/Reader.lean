import CloudInventory.Pattern.Memory
import CloudInventory.Pattern.Reader.Brackets
import CloudInventory.Pattern.Reader.Items
import CloudInventory.Pattern.Reader.Openings

/-!
Reading regular expressions: alternatives, repetitions, groups with or without a name, flags that
hold to the end of their group, bracketed classes with set operations, and escapes. There are no
look-around groups and no back-references.
-/
namespace CloudInventory.Pattern

mutual

/-- Reads alternatives up to the end of their group. -/
def readAlternatives : Nat → Reader (List Piece)
  | 0 => failure
  | fuel + 1 => do
    let first ← readItems fuel []
    if ← accept ['|'] then return first :: (← readAlternatives fuel)
    else return [first]

/-- Reads the items of one alternative; those read so far come last first. -/
def readItems : Nat → List (Option Piece) → Reader Piece
  | 0, _ => failure
  | fuel + 1, items => do
    skipBlanks
    match ← peek with
    | none | some '|' | some ')' => return sequence items.reverse
    | some '(' =>
      advance
      readItems fuel ((← readGroup fuel) :: items)
    | some '[' =>
      advance
      let (set, depth) ← readClass fuel
      readItems fuel (some ⟨.one set, depth⟩ :: items)
    | some '?' => readItems fuel (← readRepeat 0 (some 1) items)
    | some '*' => readItems fuel (← readRepeat 0 none items)
    | some '+' => readItems fuel (← readRepeat 1 none items)
    | some '\x7b' =>
      advance
      let (least, most) ← readBounds? (← braced)
      skipBlanks
      readItems fuel (← repeatLast least most items)
    | some _ => readItems fuel (some ⟨← readAtom, 0⟩ :: items)

/-- Reads a group after its opening bracket; flags alone give nothing. -/
def readGroup : Nat → Reader (Option Piece)
  | 0 => failure
  | fuel + 1 => do
    let outer ← flags
    let opening ← readOpening
    if opening = .flags then return none
    let inner := alternatives (← readAlternatives fuel)
    if !(← accept [')']) then failure
    setFlags outer
    let regex := if opening = .numbered then .group inner.regex else inner.regex
    return some ⟨regex, inner.depth + 1⟩

/-- Drops a repetition sign and repeats the last item. -/
def readRepeat (least : Nat) (most : Option Nat) (items : List (Option Piece)) :
    Reader (List (Option Piece)) := do
  advance
  repeatLast least most items

end

/-- How deeply the parts of an expression may be nested. -/
def maxNesting : Nat := 250

/-- Why a pattern is refused. -/
inductive Fault where
  /-- The pattern is no regular expression. -/
  | malformed
  /-- The automaton of the expression would take too much memory. -/
  | tooLarge
  deriving DecidableEq, Repr

/-- Reads a pattern to its end. The bound on the steps is beyond what any pattern needs. -/
def readPattern? (pattern : String) : Option Regex :=
  let cs := pattern.toList
  match ((readAlternatives (4 * cs.length + 8)).run ⟨cs, {}, []⟩) with
  | some (found, cursor) =>
    let piece := alternatives found
    if cursor.rest.isEmpty && piece.depth ≤ maxNesting then some piece.regex else none
  | none => none

/-- The regular expression of a pattern. -/
def parse (pattern : String) : Except Fault Regex :=
  match readPattern? pattern with
  | some regex => if regex.fits then .ok regex else .error .tooLarge
  | none => .error .malformed

end CloudInventory.Pattern
