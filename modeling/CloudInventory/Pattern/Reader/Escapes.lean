import CloudInventory.Pattern.Classes
import CloudInventory.Pattern.Reader.Cursor
import CloudInventory.Pattern.Regex
import CloudInventory.Text.Hex

/-!
Reading escapes: characters by code or by letter, sets of characters by letter or by property, and
looks at the boundaries of texts and words.
-/
namespace CloudInventory.Pattern

/-- What stands for itself or for one character: an escape or a single character. -/
inductive Atom where
  /-- A character, and whether it was given as a single byte. -/
  | literal (c : Char) (byte : Bool)
  | set (set : CodeRanges)
  | look (l : Look)

/-- The character of a code point that is not half of a surrogate pair. -/
def charOfCode? (code : Nat) : Option Char :=
  if h : code.isValidChar then some (Char.ofNatAux code h) else none

/-- Reads so many hexadecimal digits. -/
def hexCode (acc : Nat) : Nat → Reader Nat
  | 0 => return acc
  | n + 1 => do
    let c ← next
    match Text.hexDigit? c with
    | some d =>
      skipBlanks
      hexCode (16 * acc + d) n
    | none => failure

/-- Reads the rest of an escape by code, whose letter tells the number of digits. -/
def hexEscape (letter : Char) : Reader Atom := do
  skipBlanks
  if ← accept ['\x7b'] then
    let digits ← braced
    if digits.isEmpty then failure
    let code ← Text.hexValue? digits
    let c ← charOfCode? code
    skipBlanks
    return .literal c false
  else
    let code ← hexCode 0 (if letter = 'x' then 2 else if letter = 'u' then 4 else 8)
    let c ← charOfCode? code
    return .literal c (letter = 'x')

/-- A set or, if it is negated, all other characters. A class of bytes cannot be negated, for it
would match parts of characters. -/
def orOthers (negated : Bool) (set : CodeRanges) : Reader CodeRanges := do
  if negated then
    if (← flags).unicode then return set.complement else failure
  else return set

/-- Reads the rest of an escape by property. -/
def propertyEscape (negated : Bool) : Reader Atom := do
  skipBlanks
  if !(← flags).unicode then failure
  let (set, others) ←
    if ← accept ['\x7b'] then do
      let text ← braced
      propertyText? text
    else do
      let c ← next
      if c = '\\' then failure
      skipBlanks
      let set ← namedSet? [c]
      pure (set, false)
  let set := if (← flags).ignoreCase then foldCase set else set
  return .set (← orOthers (negated != others) set)

/-- The word characters under the flags. -/
def wordSet : Reader CodeRanges := do
  return escapeClass (← flags).unicode 'w'

def wordLook (boundary : Boundary) : Reader Atom := do
  return .look (.word (← wordSet) boundary)

/-- Reads the braces after a word boundary that give its kind; other braces are left alone. -/
def wordBoundary : Reader Atom := do
  let before ← rest
  match before with
  | '\x7b' :: _ =>
    advanceOver
    match ← peek with
    | some c =>
      if c.isAlpha || c = '-' then
        match String.ofList (← braced) with
        | "start" => wordLook .start
        | "end" => wordLook .finish
        | "start-half" => wordLook .startHalf
        | "end-half" => wordLook .finishHalf
        | _ => failure
      else
        setRest before
        wordLook .either
    | none => failure
  | _ => wordLook .either

/-- The control character of an escape letter. -/
def controlEscape? (c : Char) : Option Char :=
  [('a', '\x07'), ('f', '\x0c'), ('t', '\t'), ('n', '\n'), ('r', '\r'), ('v', '\x0b')].lookup c

/-- Reads an escape after its backslash. -/
def readEscape : Reader Atom := do
  let c ← next
  if c = 'x' ∨ c = 'u' ∨ c = 'U' then hexEscape c
  else if c = 'p' ∨ c = 'P' then propertyEscape (c = 'P')
  else if c = 'd' ∨ c = 's' ∨ c = 'w' then
    return .set (escapeClass (← flags).unicode c)
  else if c = 'D' ∨ c = 'S' ∨ c = 'W' then
    return .set (← orOthers true (escapeClass (← flags).unicode c.toLower))
  else if c = 'A' then return .look .textStart
  else if c = 'z' then return .look .textEnd
  else if c = 'b' then wordBoundary
  else if c = 'B' then wordLook .neither
  else if c = '<' then wordLook .start
  else if c = '>' then wordLook .finish
  else
    match controlEscape? c with
    | some control => return .literal control false
    | none => if c.toNat < 128 && !c.isAlphanum then return .literal c false else failure

end CloudInventory.Pattern
