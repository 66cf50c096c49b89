import CloudInventory.Text.CodeRanges

/-!
Regular expressions and searching a text for a match. A set of positions of the text is a number
whose bits are the positions; an expression takes the positions where a match may begin to those
where it may end. A match is wanted somewhere, so the search begins at all positions, and nothing
depends on which of several matches is preferred.
-/
namespace CloudInventory.Pattern

/-- What a word boundary asks of the characters on its two sides. -/
inductive Boundary where
  /-- A word begins or ends here. -/
  | either
  /-- No word begins or ends here. -/
  | neither
  | start
  | finish
  /-- No word character before. -/
  | startHalf
  /-- No word character after. -/
  | finishHalf
  deriving DecidableEq, Repr

/-- A condition on a position, told from the characters before and after it. -/
inductive Look where
  | textStart
  | textEnd
  | lineStart
  | lineEnd
  /-- As `lineStart`, where a carriage return may end a line, alone or before a line feed. -/
  | returnLineStart
  | returnLineEnd
  | word (letters : CodeRanges) (boundary : Boundary)
  deriving DecidableEq

inductive Regex where
  | empty
  /-- One character of a set. -/
  | one (set : CodeRanges)
  | look (l : Look)
  | seq (first second : Regex)
  | either (first second : Regex)
  /-- A numbered group. -/
  | group (inner : Regex)
  /-- At least `least` times and, if there is a bound, at most `most` times; a greedy one prefers
  more times to fewer. -/
  | repeat (least : Nat) (most : Option Nat) (greedy : Bool) (inner : Regex)
  deriving Inhabited

def Boundary.holds (before after : Bool) : Boundary → Bool
  | .either => before != after
  | .neither => before == after
  | .start => !before && after
  | .finish => before && !after
  | .startHalf => !before
  | .finishHalf => !after

/-- Whether a condition holds between two characters, none being the end of the text. -/
def Look.holds (before after : Option Char) : Look → Bool
  | .textStart => before.isNone
  | .textEnd => after.isNone
  | .lineStart => before.isNone || before = some '\n'
  | .lineEnd => after.isNone || after = some '\n'
  | .returnLineStart =>
    before.isNone || before = some '\n' || (before = some '\r' && after != some '\n')
  | .returnLineEnd =>
    after.isNone || after = some '\r' || (after = some '\n' && before != some '\r')
  | .word letters boundary =>
    boundary.holds (before.any letters.containsChar) (after.any letters.containsChar)

/-! ### Sets of positions -/

/-- Positions of a text: bit `i` stands for the place before the character of index `i`. -/
abbrev Positions := Nat

def bit (b : Bool) : Nat := if b then 1 else 0

/-- All positions. -/
def everywhere (text : List Char) : Positions := Nat.pow 2 (text.length + 1) - 1

/-- The positions before a character of a set. -/
def positionsOf (set : CodeRanges) : List Char → Positions
  | [] => 0
  | c :: rest => bit (set.containsChar c) + 2 * positionsOf set rest

/-- The positions at which a condition holds; `before` is the character before the text. -/
def positionsWhere (l : Look) (before : Option Char) : List Char → Positions
  | [] => bit (l.holds before none)
  | c :: rest => bit (l.holds before (some c)) + 2 * positionsWhere l (some c) rest

/-- An expression with its sets replaced by the positions of one text at which they hold. -/
inductive Plan where
  | stay (positions : Positions)
  | advance (positions : Positions)
  | seq (first second : Plan)
  | either (first second : Plan)
  | repeat (least : Nat) (most : Nat) (inner : Plan)

/-- The plan of an expression for a text. Of more repetitions than the text has positions one stays
in its place, so that it does not matter how many more there are. -/
def Regex.plan (text : List Char) : Regex → Plan
  | .empty => .stay (everywhere text)
  | .one set => .advance (positionsOf set text)
  | .look l => .stay (positionsWhere l none text)
  | .seq first second => .seq (first.plan text) (second.plan text)
  | .either first second => .either (first.plan text) (second.plan text)
  | .group inner => inner.plan text
  | .repeat least most _ inner =>
    .repeat (min least (text.length + 1)) ((most.map (· - least)).getD (text.length + 1))
      (inner.plan text)

/-- Exactly so many steps. -/
def times (step : Positions → Positions) : Nat → Positions → Positions
  | 0, ps => ps
  | n + 1, ps => if ps = 0 then 0 else times step n (step ps)

/-- At most so many steps. -/
def upTo (step : Positions → Positions) : Nat → Positions → Positions
  | 0, ps => ps
  | n + 1, ps =>
    let next := ps ||| step ps
    if next = ps then ps else upTo step n next

/-- The positions where a match may end that begins at one of the given ones. -/
def Plan.reach : Plan → Positions → Positions
  | .stay allowed, ps => ps &&& allowed
  | .advance allowed, ps => (ps &&& allowed) <<< 1
  | .seq first second, ps => second.reach (first.reach ps)
  | .either first second, ps => first.reach ps ||| second.reach ps
  | .repeat least most inner, ps => upTo inner.reach most (times inner.reach least ps)

/-- Whether an expression matches somewhere in a text. -/
def Regex.isMatch (r : Regex) (text : String) : Bool :=
  (r.plan text.toList).reach (everywhere text.toList) != 0

end CloudInventory.Pattern
