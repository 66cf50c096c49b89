import CloudInventory.Binary64.Notation
import CloudInventory.Json.Basic
import CloudInventory.Text.Hex

/-!
Writing documents, on one line without spaces or on indented lines.
-/
namespace CloudInventory.Json

/-- The escape of a control character by its code. -/
def controlEscape (c : Char) : List Char :=
  '\\' :: 'u' :: Text.hexPadded 4 c.toNat

/-- A character as it stands in a written text: only the quotation mark, the backslash and control
characters are escaped. -/
def escapeChar (c : Char) : List Char :=
  if c = '"' then ['\\', '"']
  else if c = '\\' then ['\\', '\\']
  else if c = '\n' then ['\\', 'n']
  else if c = '\r' then ['\\', 'r']
  else if c = '\t' then ['\\', 't']
  else if c = '\x08' then ['\\', 'b']
  else if c = '\x0c' then ['\\', 'f']
  else if c.toNat < 32 then controlEscape c
  else [c]

def writeText (s : String) : List Char :=
  '"' :: s.toList.flatMap escapeChar ++ ['"']

def writeInt (n : Int) : List Char :=
  if n < 0 then '-' :: Nat.toDigits 10 n.natAbs else Nat.toDigits 10 n.natAbs

/-- What is not finite has no numeral and is written as null. -/
def writeFloat (x : Binary64) : List Char :=
  if x.isFinite then x.render Binary64.documentNotation else ['n', 'u', 'l', 'l']

mutual

/-- On one line without spaces. -/
def write : Json → List Char
  | .null => ['n', 'u', 'l', 'l']
  | .bool true => ['t', 'r', 'u', 'e']
  | .bool false => ['f', 'a', 'l', 's', 'e']
  | .int n => writeInt n
  | .float x => writeFloat x
  | .string s => writeText s
  | .array items => '[' :: writeItems items ++ [']']
  | .object members => '\x7b' :: writeMembers members ++ ['\x7d']

def writeItems : List Json → List Char
  | [] => []
  | [item] => item.write
  | item :: rest => item.write ++ ',' :: writeItems rest

def writeMembers : List (String × Json) → List Char
  | [] => []
  | [(key, value)] => writeText key ++ ':' :: value.write
  | (key, value) :: rest => writeText key ++ ':' :: value.write ++ ',' :: writeMembers rest

end

/-- The text of a document on one line. -/
def compact (document : Json) : String :=
  String.ofList document.write

/-- A new line, indented by two spaces for each level. -/
def newLine (level : Nat) : List Char :=
  '\n' :: List.replicate (2 * level) ' '

mutual

/-- On indented lines, one item or member on each; an empty container stays on its line. -/
def writeIndented (level : Nat) : Json → List Char
  | .array [] => ['[', ']']
  | .array (item :: rest) =>
    '[' :: newLine (level + 1) ++ item.writeIndented (level + 1) ++ writeMoreItems (level + 1) rest
      ++ newLine level ++ [']']
  | .object [] => ['\x7b', '\x7d']
  | .object ((key, value) :: rest) =>
    '\x7b' :: newLine (level + 1) ++ writeText key ++ [':', ' '] ++ value.writeIndented (level + 1)
      ++ writeMoreMembers (level + 1) rest ++ newLine level ++ ['\x7d']
  | scalar => scalar.write

def writeMoreItems (level : Nat) : List Json → List Char
  | [] => []
  | item :: rest =>
    ',' :: newLine level ++ item.writeIndented level ++ writeMoreItems level rest

def writeMoreMembers (level : Nat) : List (String × Json) → List Char
  | [] => []
  | (key, value) :: rest =>
    ',' :: newLine level ++ writeText key ++ [':', ' '] ++ value.writeIndented level
      ++ writeMoreMembers level rest

end

/-- The text of a document on indented lines. -/
def pretty (document : Json) : String :=
  String.ofList (document.writeIndented 0)

end CloudInventory.Json
