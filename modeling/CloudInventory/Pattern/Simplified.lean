import CloudInventory.Pattern.Regex

/-!
Simplified expressions: sequences and alternatives are flat, neighbouring characters are joined to
texts, alternatives of single characters are sets, and what all alternatives begin with stands in
front of them. A simplified expression matches what the expression matches from which it was made.
-/
namespace CloudInventory.Pattern

inductive Simplified where
  | empty
  /-- One or more characters after one another. -/
  | text (codes : List Nat)
  | one (set : CodeRanges)
  | look (l : Look)
  | repeat (least : Nat) (most : Option Nat) (greedy : Bool) (inner : Simplified)
  | group (inner : Simplified)
  | seq (items : List Simplified)
  | either (branches : List Simplified)
  deriving Inhabited

namespace Simplified

/-! ### Tests -/

mutual

/-- Matches the empty text alone. -/
def isZeroWidth : Simplified → Bool
  | .empty | .look _ => true
  | .text _ | .one _ => false
  | .repeat _ most _ inner => most.isSome && inner.isZeroWidth
  | .group inner => inner.isZeroWidth
  | .seq items => areZeroWidth items
  | .either branches => areZeroWidth branches

def areZeroWidth : List Simplified → Bool
  | [] => true
  | x :: xs => x.isZeroWidth && areZeroWidth xs

end

mutual

/-- The length of the shortest match; none if some part never matches. -/
def shortest? : Simplified → Option Nat
  | .empty | .look _ => some 0
  | .text codes => some codes.length
  | .one set => if set.isEmpty then none else some 1
  | .repeat least _ _ inner => inner.shortest?.map (least * ·)
  | .group inner => inner.shortest?
  | .seq items => (shortestOf? items).map List.sum
  | .either branches => (shortestOf? branches).map (fun ns => ns.min?.getD 0)

def shortestOf? : List Simplified → Option (List Nat)
  | [] => some []
  | x :: xs =>
    match x.shortest?, shortestOf? xs with
    | some n, some ns => some (n :: ns)
    | _, _ => none

end

mutual

/-- Every match begins where a condition holds. -/
def beginsWith (l : Look) : Simplified → Bool
  | .look l' => l' = l
  | .repeat least _ _ inner => 0 < least && inner.beginsWith l
  | .group inner => inner.beginsWith l
  | .seq items => sequenceBeginsWith l items
  | .either branches => allBeginWith l branches
  | .empty | .text _ | .one _ => false

def sequenceBeginsWith (l : Look) : List Simplified → Bool
  | [] => false
  | x :: xs => x.beginsWith l || (x.isZeroWidth && sequenceBeginsWith l xs)

def allBeginWith (l : Look) : List Simplified → Bool
  | [] => true
  | x :: xs => x.beginsWith l && allBeginWith l xs

end

mutual

/-- Of one shape and without numbered groups, each of which has a number of its own. -/
def same : Simplified → Simplified → Bool
  | .empty, .empty => true
  | .text codes, .text codes' => codes = codes'
  | .one set, .one set' => set = set'
  | .look l, .look l' => l = l'
  | .repeat least most greedy inner, .repeat least' most' greedy' inner' =>
    least = least' && most = most' && greedy = greedy' && inner.same inner'
  | .seq items, .seq items' => allSame items items'
  | .either branches, .either branches' => allSame branches branches'
  | _, _ => false

def allSame : List Simplified → List Simplified → Bool
  | [], [] => true
  | x :: xs, y :: ys => x.same y && allSame xs ys
  | _, _ => false

end

/-! ### Construction -/

/-- A set of characters; surrogates are none. -/
def ofSet (set : CodeRanges) : Simplified :=
  let characters := set.flatMap (fun (lo, hi) =>
    [(lo, min hi 0xD7FF), (max lo 0xE000, hi)].filter (fun r => r.1 ≤ r.2))
  match characters with
  | [(lo, hi)] => if lo = hi then .text [lo] else .one characters
  | _ => .one characters

/-- What stands one after another. -/
def items : Simplified → List Simplified
  | .empty => []
  | .seq items => items
  | r => [r]

/-- Items one after another. -/
def ofItems : List Simplified → Simplified
  | [] => .empty
  | [only] => only
  | items => .seq items

/-- Joins two lists of items, and the texts where they meet. -/
def joinItems : List Simplified → List Simplified → List Simplified
  | [], ys => ys
  | [.text codes], .text codes' :: ys => .text (codes ++ codes') :: ys
  | x :: xs, ys => x :: joinItems xs ys

/-- One after the other. -/
def append (first second : Simplified) : Simplified :=
  ofItems (joinItems first.items second.items)

/-- The sets of expressions that all are sets. -/
def sets? (rs : List Simplified) : Option (List CodeRanges) :=
  rs.mapM (fun
    | .one set => some set
    | _ => none)

/-- The texts of expressions that all are texts. -/
def texts? (rs : List Simplified) : Option (List (List Nat)) :=
  rs.mapM (fun
    | .text codes => some codes
    | _ => none)

/-- The characters of expressions that all are single characters. -/
def characters? (rs : List Simplified) : Option (List Nat) :=
  rs.mapM (fun
    | .text [code] => some code
    | _ => none)

/-- Alternatives, as one set where they are sets or single characters. -/
def merge (branches : List Simplified) : Simplified :=
  match branches, characters? branches, sets? branches with
  | [only], _, _ => only
  | _, some codes, _ => ofSet (CodeRanges.ofList (codes.map (fun code => (code, code))))
  | _, _, some sets => ofSet (CodeRanges.ofList sets.flatten)
  | branches, none, none => .either branches

/-- The items that two lists begin with in common. -/
def commonItems : List Simplified → List Simplified → List Simplified
  | x :: xs, y :: ys => if x.same y then x :: commonItems xs ys else []
  | _, _ => []

/-- The items that all branches begin with in common; a branch that is no sequence has none. -/
def commonOf : List Simplified → List Simplified
  | [] => []
  | [.seq items] => items
  | .seq items :: rest => commonItems items (commonOf rest)
  | _ => []

/-- The alternatives that expressions stand for. -/
def flatten (branches : List Simplified) : List Simplified :=
  branches.flatMap (fun
    | .either branches => branches
    | r => [r])

/-- Alternatives, with what all of them begin with in front. -/
def alternation (branches : List Simplified) : Simplified :=
  let branches := flatten branches
  let front := commonOf branches
  if branches.length < 2 || front.isEmpty then merge branches
  else
    let rests := branches.map (fun r => ofItems (r.items.drop front.length))
    ofItems (joinItems front (merge (flatten rests)).items)

/-- So many times. Of what matches the empty text alone one time is as good as many. -/
def repeated (least : Nat) (most : Option Nat) (greedy : Bool) (inner : Simplified) : Simplified :=
  let bounds :=
    if inner.isZeroWidth then (min least 1, some (min (most.getD 1) 1)) else (least, most)
  if bounds = (0, some 0) then .empty
  else if bounds = (1, some 1) then inner
  else .repeat bounds.1 bounds.2 greedy inner

mutual

/-- What matches the texts read backwards; a numbered group has no number there. -/
def reversed : Simplified → Simplified
  | .text codes => .text codes.reverse
  | .repeat least most greedy inner => .repeat least most greedy inner.reversed
  | .group inner => .group inner.reversed
  | .seq items => .seq (reversedOf items).reverse
  | .either branches => .either (reversedOf branches)
  | r => r

def reversedOf : List Simplified → List Simplified
  | [] => []
  | x :: xs => x.reversed :: reversedOf xs

end

end Simplified

/-- The alternatives of an expression, each simplified. -/
def Regex.branches : Regex → List Simplified
  | .empty => [.empty]
  | .one set => [.ofSet set]
  | .look l => [.look l]
  | .seq first second =>
    [(Simplified.alternation first.branches).append (Simplified.alternation second.branches)]
  | .either first second => first.branches ++ second.branches
  | .group inner => [.group (Simplified.alternation inner.branches)]
  | .repeat least most greedy inner =>
    [.repeated least most greedy (Simplified.alternation inner.branches)]

def Regex.simplified (r : Regex) : Simplified :=
  .alternation r.branches

end CloudInventory.Pattern
