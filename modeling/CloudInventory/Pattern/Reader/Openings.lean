import CloudInventory.Pattern.Classes
import CloudInventory.Pattern.Reader.Cursor

/-!
Reading how a group begins: with a name or a number, or with flags, which hold to the end of the group
or, without a group of their own, of the group around them.
-/
namespace CloudInventory.Pattern

/-! ### Names -/

/-- Letters of a later version of the standard than that of the named sets. -/
def laterLetters : CodeRanges := CodeRanges.ofTable [
  "88f c5c cdc a7ce-a7cf a7d2 a7d4 a7f1 10940-10959 10ec5-10ec7 10efa-10efb 11b60-11b67",
  "11db0-11ddb 16ea0-16eb8 16ebb-16ed3 16ff2-16ff6 187f8-187ff 18d09-18d1e 18d80-18df2",
  "1e6c0-1e6de 1e6e0-1e6f5 1e6fe-1e6ff 2b73a-2b73f 2cea2-2cead 323b0-33479"]

/-- Digits of a later version of the standard than that of the named sets. -/
def laterDigits : CodeRanges := CodeRanges.ofTable ["11de0-11de9"]

def nameLetters : CodeRanges :=
  alphabetic.union laterLetters

def nameDigits : CodeRanges :=
  (categoryUnion ["nd", "nl", "no"]).union laterDigits

/-- Characters that can begin the name of a group. -/
def isNameStart (c : Char) : Bool :=
  c = '_' || nameLetters.containsChar c

/-- Characters that can follow in the name of a group. -/
def isNamePart (c : Char) : Bool :=
  isNameStart c || c = '.' || c = '[' || c = ']' || nameDigits.containsChar c

/-- Reads the name of a group up to its closing bracket; each name is given once. -/
def readName : Reader Unit := do
  let cs ← rest
  let name := cs.takeWhile (· != '>')
  match name, cs.drop name.length with
  | first :: others, _ :: after =>
    let cursor ← get
    if isNameStart first && others.all isNamePart && !cursor.names.contains name then
      set { cursor with rest := after, names := name :: cursor.names }
    else failure
  | _, _ => failure

/-! ### Flags -/

/-- Sets one flag on or off. -/
def Flags.set? (f : Flags) (on : Bool) (letter : Char) : Option Flags :=
  if letter = 'i' then some { f with ignoreCase := on }
  else if letter = 'm' then some { f with multiLine := on }
  else if letter = 's' then some { f with dotAll := on }
  else if letter = 'R' then some { f with returns := on }
  else if letter = 'u' then some { f with unicode := on }
  else if letter = 'x' then some { f with extended := on }
  else if letter = 'U' then some { f with swapGreed := on }
  else none

/-- Sets the flags of a list of letters; those after a dash are set off. Each letter and the dash
stand once, and a letter follows the dash. -/
def setLetters? (f : Flags) (seen : List Char) : List Char → Option Flags
  | [] => if seen.head? = some '-' then none else some f
  | c :: cs =>
    if seen.contains c then none
    else if c = '-' then setLetters? f (c :: seen) cs
    else (f.set? (!seen.contains '-') c).bind (fun f => setLetters? f (c :: seen) cs)

/-! ### Openings -/

/-- How a group begins. -/
inductive Opening where
  /-- A numbered group. -/
  | numbered
  | plain
  /-- Flags for the rest of the group around it, and no group. -/
  | flags
  deriving DecidableEq, Repr

/-- Reads the beginning of a group after its bracket and sets its flags. -/
def readOpening : Reader Opening := do
  skipBlanks
  let cs ← rest
  if [['?', '='], ['?', '!'], ['?', '<', '='], ['?', '<', '!']].any (·.isPrefixOf cs) then failure
  if (← accept ['?', 'P', '<']) || (← accept ['?', '<']) then
    readName
    return .numbered
  else if ← accept ['?'] then
    let cs ← rest
    let letters := cs.takeWhile (fun c => c != ':' && c != ')')
    let f ← setLetters? (← flags) [] letters
    match cs.drop letters.length with
    | [] => failure
    | closing :: after =>
      if closing = ')' && letters.isEmpty then failure
      setRest after
      setFlags f
      return if closing = ':' then .plain else .flags
  else return .numbered

end CloudInventory.Pattern
