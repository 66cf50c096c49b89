/-!
Splitting and joining texts at a separator, and looking for one text in another.
-/
namespace CloudInventory.Text

/-- The parts between separators; there is always one more than there are separators. -/
def splitAt (separator : Char) : List Char → List (List Char)
  | [] => [[]]
  | c :: rest =>
    if c = separator then [] :: splitAt separator rest
    else
      match splitAt separator rest with
      | [] => [[c]]
      | part :: parts => (c :: part) :: parts

/-- Whether one text stands somewhere in another. -/
def occursIn (part : List Char) : List Char → Bool
  | [] => part.isEmpty
  | c :: rest => part.isPrefixOf (c :: rest) || occursIn part rest

def startsWith (s start : String) : Bool :=
  start.toList.isPrefixOf s.toList

end CloudInventory.Text
