import CloudInventory.Text.CodeRanges

/-!
Blank characters: those with the Unicode property White_Space.
-/
namespace CloudInventory.Text

/-- The code points with the property White_Space. -/
def blankCodes : CodeRanges :=
  CodeRanges.ofTable ["9-d 20 85 a0 1680 2000-200a 2028-2029 202f 205f 3000"]

def isBlank (c : Char) : Bool :=
  blankCodes.containsChar c

/-- Drops from both ends the characters that a test accepts. -/
def stripBy (drop : Char → Bool) (cs : List Char) : List Char :=
  ((cs.dropWhile drop).reverse.dropWhile drop).reverse

/-- Drops from the right end the characters that a test accepts. -/
def stripEndBy (drop : Char → Bool) (cs : List Char) : List Char :=
  (cs.reverse.dropWhile drop).reverse

/-- A text without the blanks around it. -/
def trim (s : String) : String :=
  String.ofList (stripBy isBlank s.toList)

end CloudInventory.Text
