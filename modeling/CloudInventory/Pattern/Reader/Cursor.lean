import CloudInventory.Text.Blank

/-!
What is left to read of a pattern, with the flags that hold there, and the steps that take characters
from it. Where the flags say so, blanks and comments between the parts of a pattern are passed over.
-/
namespace CloudInventory.Pattern

structure Flags where
  ignoreCase : Bool := false
  multiLine : Bool := false
  dotAll : Bool := false
  /-- Carriage returns end lines too. -/
  returns : Bool := false
  /-- Repetitions without a mark prefer fewer times, those with one more. -/
  swapGreed : Bool := false
  unicode : Bool := true
  /-- Blanks and comments between the parts of an expression are passed over. -/
  extended : Bool := false
  deriving DecidableEq, Repr

/-- What is left to read, the flags that hold, and the names of groups so far. -/
structure Cursor where
  rest : List Char
  flags : Flags
  names : List (List Char)

/-- A step of reading; it fails on anything that is no regular expression. -/
abbrev Reader (α : Type) := StateT Cursor Option α

/-! ### Characters -/

def peek : Reader (Option Char) := do
  return (← get).rest.head?

def rest : Reader (List Char) := do
  return (← get).rest

def setRest (cs : List Char) : Reader Unit :=
  modify (fun cursor => { cursor with rest := cs })

def flags : Reader Flags := do
  return (← get).flags

def setFlags (f : Flags) : Reader Unit :=
  modify (fun cursor => { cursor with flags := f })

/-- Drops blanks, and comments from `#` to the end of their line. -/
def dropExtended (inComment : Bool) : List Char → List Char
  | [] => []
  | c :: cs =>
    if inComment then dropExtended (c != '\n') cs
    else if Text.isBlank c then dropExtended false cs
    else if c = '#' then dropExtended true cs
    else c :: cs

/-- Removes blanks and comments everywhere. -/
def stripExtended (inComment : Bool) : List Char → List Char
  | [] => []
  | c :: cs =>
    if inComment then stripExtended (c != '\n') cs
    else if Text.isBlank c then stripExtended false cs
    else if c = '#' then stripExtended true cs
    else c :: stripExtended false cs

/-- Passes over blanks and comments where the flags allow them. -/
def skipBlanks : Reader Unit := do
  if (← flags).extended then setRest (dropExtended false (← rest))

/-- Drops the next character. -/
def advance : Reader Unit := do
  setRest (← rest).tail

/-- Drops the next character, and blanks and comments after it. -/
def advanceOver : Reader Unit := do
  advance
  skipBlanks

/-- Reads the next character. -/
def next : Reader Char := do
  match ← rest with
  | c :: cs => setRest cs; return c
  | [] => failure

/-- Drops a text if it stands next. -/
def accept (text : List Char) : Reader Bool := do
  let cs ← rest
  if text.isPrefixOf cs then
    setRest (cs.drop text.length)
    return true
  else return false

/-- Reads up to a closing brace and drops it; blanks and comments count only where the flags keep
them. -/
def braced : Reader (List Char) := do
  let cs ← rest
  let content := cs.takeWhile (· != '\x7d')
  match cs.drop content.length with
  | [] => failure
  | _ :: after =>
    setRest after
    return if (← flags).extended then stripExtended false content else content

end CloudInventory.Pattern
