import CloudInventory.Pattern.Tables.Age
import CloudInventory.Pattern.Tables.Folding
import CloudInventory.Pattern.Tables.ScriptExtension
import CloudInventory.Pattern.Tables.Segmentation

/-!
The named classes of characters of regular expressions: digits, blanks and word characters, in ASCII
or in full, the named ASCII classes, and the classes named by a property.
-/
namespace CloudInventory.Pattern

/-! ### Digits, blanks, word characters -/

def digits : CodeRanges := category "nd"

def wordCharacters : CodeRanges :=
  CodeRanges.ofList (alphabetic ++ categoryUnion ["mn", "mc", "me", "nd", "pc"]
    ++ (propertyNamed? "joincontrol").getD [])

def asciiDigits : CodeRanges := [(48, 57)]
def asciiBlanks : CodeRanges := [(9, 13), (32, 32)]
def asciiLower : CodeRanges := [(97, 122)]
def asciiUpper : CodeRanges := [(65, 90)]
def asciiLetters : CodeRanges := asciiUpper ++ asciiLower
def asciiWord : CodeRanges := [(48, 57), (65, 90), (95, 95), (97, 122)]

/-- The class of an escape letter in small form. -/
def escapeClass (unicode : Bool) (letter : Char) : CodeRanges :=
  if letter = 'd' then (if unicode then digits else asciiDigits)
  else if letter = 's' then (if unicode then Text.blankCodes else asciiBlanks)
  else if unicode then wordCharacters else asciiWord

/-- The ASCII class of a name between colons. -/
def asciiClass? (name : String) : Option CodeRanges :=
  [("alnum", asciiDigits ++ asciiLetters), ("alpha", asciiLetters), ("ascii", [(0, 127)]),
    ("blank", [(9, 9), (32, 32)]), ("cntrl", [(0, 31), (127, 127)]), ("digit", asciiDigits),
    ("graph", [(33, 126)]), ("lower", asciiLower), ("print", [(32, 126)]),
    ("punct", [(33, 47), (58, 64), (91, 96), (123, 126)]), ("space", asciiBlanks),
    ("upper", asciiUpper), ("word", asciiWord),
    ("xdigit", [(48, 57), (65, 70), (97, 102)])].lookup name

/-! ### Case -/

/-- A set of ASCII characters with the other case of its letters. -/
def foldAscii (set : CodeRanges) : CodeRanges :=
  let letters := (List.range 26).filter (fun i => set.contains (65 + i) || set.contains (97 + i))
  set.union (letters.flatMap (fun i => [(65 + i, 65 + i), (97 + i, 97 + i)]))

/-! ### Properties -/

/-- A name as it is looked up: in small letters, without separators and a leading `is`. -/
def looseName (name : List Char) : String :=
  let stripped :=
    match name with
    | i :: s :: rest => if i.toLower = 'i' ∧ s.toLower = 's' then (true, rest) else (false, name)
    | _ => (false, name)
  let kept := (stripped.2.filter (fun c => c.toNat < 128 && c != ' ' && c != '_' && c != '-')).map
    Char.toLower
  if stripped.1 && kept = ['c'] then "isc" else String.ofList kept

/-- The set of a property, a general category or a script given by name alone. -/
def namedSet? (name : List Char) : Option CodeRanges :=
  let name := looseName name
  let general := (categoryNamed? name).or (scriptNamed? name)
  if name = "cf" ∨ name = "sc" ∨ name = "lc" then general
  else (propertyNamed? name).or general

/-- The properties that have values, with their names and the set of each value. -/
def valuedProperties : List (List String × (String → Option CodeRanges)) := [
  (["age"], ageNamed?),
  (["gc", "generalcategory"], categoryNamed?),
  (["gcb", "graphemeclusterbreak"], breakNamed? graphemeBreaks),
  (["sb", "sentencebreak"], breakNamed? sentenceBreaks),
  (["sc", "script"], scriptNamed?),
  (["scx", "scriptextensions"], scriptExtensionNamed?),
  (["wb", "wordbreak"], breakNamed? wordBreaks)]

/-- The set of the characters that have a property of a kind with a value of a name. -/
def qualifiedSet? (kind name : List Char) : Option CodeRanges :=
  match valuedProperties.find? (fun (kinds, _) => kinds.contains (looseName kind)) with
  | some (_, valued) => valued (looseName name)
  | none => none

/-- Splits a text at the first place where a separator stands. -/
def splitFirst? (separator : List Char) : List Char → Option (List Char × List Char)
  | [] => none
  | c :: rest =>
    if separator.isPrefixOf (c :: rest) then some ([], (c :: rest).drop separator.length)
    else (splitFirst? separator rest).map (fun (front, back) => (c :: front, back))

/-- The set that the text between the braces of a property escape names, and whether all other
characters are meant. -/
def propertyText? (text : List Char) : Option (CodeRanges × Bool) :=
  match splitFirst? ['!', '='] text with
  | some (kind, name) => (qualifiedSet? kind name).map (·, true)
  | none =>
    match (splitFirst? [':'] text).or (splitFirst? ['='] text) with
    | some (kind, name) => (qualifiedSet? kind name).map (·, false)
    | none => (namedSet? text).map (·, false)

end CloudInventory.Pattern
