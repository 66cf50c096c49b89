import CloudInventory.Pattern.Reader.Escapes
import CloudInventory.Text.Integer

/-!
Reading the items of an alternative: single characters and signs, and how often an item is repeated.
-/
namespace CloudInventory.Pattern

/-- An expression that has been read, with how deeply its parts are nested. -/
structure Piece where
  regex : Regex
  depth : Nat

/-- The expression of items one after another. -/
def sequence (items : List (Option Piece)) : Piece :=
  let pieces := items.filterMap id
  let depth := pieces.foldl (fun d p => max d p.depth) 0
  ⟨pieces.foldr (fun p r => .seq p.regex r) .empty, if items.length < 2 then depth else depth + 1⟩

/-- The expression of alternatives. -/
def alternatives : List Piece → Piece
  | [] => ⟨.empty, 0⟩
  | [only] => only
  | first :: others =>
    ⟨others.foldl (fun r p => .either r p.regex) first.regex,
      others.foldl (fun d p => max d p.depth) first.depth + 1⟩

/-! ### Characters and signs -/

/-- The expression of a single character under the flags. -/
def literal (c : Char) (byte : Bool) : Reader Regex := do
  let f ← flags
  let code := c.toNat
  if !f.unicode && byte && 128 ≤ code then failure
  if !f.ignoreCase then return .one [(code, code)]
  else if f.unicode then return .one (foldCase [(code, code)])
  else return .one (foldAscii [(code, code)])

/-- Any character but those that end a line. -/
def dot : Reader Regex := do
  let f ← flags
  if !f.unicode then failure
  if f.dotAll then return .one [(0, CodeRanges.last)]
  else if f.returns then return .one (CodeRanges.complement [(10, 10), (13, 13)])
  else return .one (CodeRanges.complement [(10, 10)])

def lineLook (whole line returnLine : Look) : Reader Regex := do
  let f ← flags
  return .look (if !f.multiLine then whole else if f.returns then returnLine else line)

/-- Reads one character, escape, or sign that is no operator. -/
def readAtom : Reader Regex := do
  let c ← next
  if c = '.' then dot
  else if c = '^' then lineLook .textStart .lineStart .returnLineStart
  else if c = '$' then lineLook .textEnd .lineEnd .returnLineEnd
  else if c = '\\' then
    match ← readEscape with
    | .literal c byte => literal c byte
    | .set set => return .one set
    | .look l => return .look l
  else literal c false

/-! ### Repetitions -/

/-- The greatest count of a repetition. -/
def maxCount : Nat := UInt32.size - 1

/-- A count, with blanks around it. -/
def readCount? (cs : List Char) : Option (Nat × List Char) :=
  let cs := cs.dropWhile Text.isBlank
  let digits := cs.takeWhile Char.isDigit
  match Text.digits? digits with
  | some n =>
    if n ≤ maxCount then some (n, (cs.drop digits.length).dropWhile Text.isBlank) else none
  | none => none

/-- The bounds between the braces of a repetition. -/
def readBounds? (cs : List Char) : Option (Nat × Option Nat) := do
  let (least, cs) ← readCount? cs
  match cs with
  | [] => some (least, some least)
  | [','] => some (least, none)
  | ',' :: cs =>
    let (most, cs) ← readCount? cs
    if cs.isEmpty && least ≤ most then some (least, some most) else none
  | _ => none

/-- Reads the mark of a short match, and repeats the last item; flags and the beginning of a group
cannot be repeated. -/
def repeatLast (least : Nat) (most : Option Nat) : List (Option Piece) →
    Reader (List (Option Piece))
  | some piece :: items => do
    let marked ← accept ['?']
    let greedy := marked == (← flags).swapGreed
    return some ⟨.repeat least most greedy piece.regex, piece.depth + 1⟩ :: items
  | _ => failure

end CloudInventory.Pattern
