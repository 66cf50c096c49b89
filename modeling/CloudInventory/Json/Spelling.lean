import CloudInventory.Binary64.Decimal
import CloudInventory.Json.Basic
import CloudInventory.Text.Hex

/-!
Documents as they are spelled: numerals not yet rounded, escapes of half a character allowed, and
members in the order written. Reading a document is reading its spelling and then giving that its
meaning, which can fail: a number may be too large, a text may hold half a character, and
containers may be nested too deeply.
-/
namespace CloudInventory.Json

/-- A decimal numeral: sign, digits before and after the point, power of ten. -/
structure Numeral where
  negative : Bool
  whole : List Char
  fraction : Option (List Char)
  power : Option Int
  deriving DecidableEq, Repr

/-- One character of a text as written, or the escape of half of a surrogate pair. -/
inductive Piece where
  | char (c : Char)
  | half (code : Nat)
  deriving DecidableEq, Repr

inductive Spelling where
  | null
  | bool (b : Bool)
  | number (n : Numeral)
  | string (pieces : List Piece)
  | array (items : List Spelling)
  | object (members : List (List Piece × Spelling))
  deriving Inhabited

/-! ### Characters -/

def isSpace (c : Char) : Bool :=
  c = ' ' || c = '\n' || c = '\r' || c = '\t'

def skipSpace (cs : List Char) : List Char :=
  cs.dropWhile isSpace

/-- The piece that an escape by code spells. -/
def Piece.ofCode (code : Nat) : Piece :=
  if 0xD800 ≤ code ∧ code < 0xE000 then .half code else .char (Char.ofNat code)

/-- The character that a short escape stands for. -/
def shortEscape? (c : Char) : Option Char :=
  if c = '"' ∨ c = '\\' ∨ c = '/' then some c
  else if c = 'b' then some '\x08'
  else if c = 'f' then some '\x0c'
  else if c = 'n' then some '\n'
  else if c = 'r' then some '\r'
  else if c = 't' then some '\t'
  else none

/-- The pieces of a text up to its closing quotation mark, and what follows the mark. -/
def readPieces : List Char → Option (List Piece × List Char)
  | [] => none
  | '"' :: rest => some ([], rest)
  | '\\' :: 'u' :: a :: b :: c :: d :: rest => do
    let code ← Text.hexValue? [a, b, c, d]
    let (pieces, after) ← readPieces rest
    pure (.ofCode code :: pieces, after)
  | '\\' :: c :: rest => do
    let c ← shortEscape? c
    let (pieces, after) ← readPieces rest
    pure (.char c :: pieces, after)
  | c :: rest =>
    if c.toNat < 32 ∨ c = '\\' then none
    else do
      let (pieces, after) ← readPieces rest
      pure (.char c :: pieces, after)

/-- The text that pieces spell; a first half must be followed by a second one. -/
def joinPieces? : List Piece → Option (List Char)
  | [] => some []
  | .char c :: rest => (joinPieces? rest).map (c :: ·)
  | .half high :: .half low :: rest =>
    if high < 0xDC00 ∧ 0xDC00 ≤ low then
      let code := 0x10000 + (high - 0xD800) * 0x400 + (low - 0xDC00)
      (joinPieces? rest).map (Char.ofNat code :: ·)
    else none
  | .half _ :: _ => none

/-! ### Numerals -/

def takeDigits (cs : List Char) : List Char × List Char :=
  cs.span Char.isDigit

/-- The digits before the point: a single zero, or a run that does not begin with one. -/
def readWhole (cs : List Char) : Option (List Char × List Char) :=
  match takeDigits cs with
  | ([], _) => none
  | ('0' :: _ :: _, _) => none
  | (digits, rest) => some (digits, rest)

def readFraction : List Char → Option (Option (List Char) × List Char)
  | '.' :: rest =>
    match takeDigits rest with
    | ([], _) => none
    | (digits, after) => some (some digits, after)
  | cs => some (none, cs)

def readPowerDigits (negative : Bool) (cs : List Char) : Option (Option Int × List Char) :=
  match takeDigits cs with
  | ([], _) => none
  | (digits, after) =>
    let n : Int := Decimal.ofDigits digits
    some (some (if negative then -n else n), after)

def readPower : List Char → Option (Option Int × List Char)
  | c :: rest =>
    if c = 'e' ∨ c = 'E' then
      match rest with
      | '+' :: rest => readPowerDigits false rest
      | '-' :: rest => readPowerDigits true rest
      | rest => readPowerDigits false rest
    else some (none, c :: rest)
  | [] => some (none, [])

def readUnsigned (negative : Bool) (cs : List Char) : Option (Numeral × List Char) := do
  let (whole, cs) ← readWhole cs
  let (fraction, cs) ← readFraction cs
  let (power, cs) ← readPower cs
  pure (⟨negative, whole, fraction, power⟩, cs)

def readNumeral : List Char → Option (Numeral × List Char)
  | '-' :: rest => readUnsigned true rest
  | cs => readUnsigned false cs

/-- The number that a numeral stands for: a whole number when it is written without point and
power and fits a machine word, signed or unsigned, and otherwise the nearest floating-point number.
Zero with a minus sign is a floating-point number. -/
def Numeral.toJson? (n : Numeral) : Option Json :=
  let digits := n.whole ++ n.fraction.getD []
  let decimal : Decimal :=
    ⟨n.negative, Decimal.ofDigits digits, n.power.getD 0 - (n.fraction.getD []).length⟩
  let value := Decimal.ofDigits n.whole
  let float :=
    let x := decimal.toBinary64
    if x.isFinite then some (.float x) else none
  match n.fraction, n.power with
  | none, none =>
    if n.negative then
      if 0 < value ∧ value ≤ Nat.pow 2 63 then some (.int (-(value : Int))) else float
    else if value < UInt64.size then some (.int value) else float
  | _, _ => float

/-! ### Documents -/

mutual

/-- Reads one document. The first argument bounds the steps; twice the length of the text and two
more are always enough. -/
def readSpelling : Nat → List Char → Option (Spelling × List Char)
  | 0, _ => none
  | fuel + 1, cs =>
    match skipSpace cs with
    | 'n' :: 'u' :: 'l' :: 'l' :: rest => some (.null, rest)
    | 't' :: 'r' :: 'u' :: 'e' :: rest => some (.bool true, rest)
    | 'f' :: 'a' :: 'l' :: 's' :: 'e' :: rest => some (.bool false, rest)
    | '"' :: rest => (readPieces rest).map (fun (pieces, after) => (.string pieces, after))
    | '[' :: rest =>
      match skipSpace rest with
      | ']' :: after => some (.array [], after)
      | rest => (readItems fuel rest).map (fun (items, after) => (.array items, after))
    | '\x7b' :: rest =>
      match skipSpace rest with
      | '\x7d' :: after => some (.object [], after)
      | rest => (readMembers fuel rest).map (fun (members, after) => (.object members, after))
    | cs => (readNumeral cs).map (fun (n, after) => (.number n, after))

/-- Reads the items of an array up to its closing bracket. -/
def readItems : Nat → List Char → Option (List Spelling × List Char)
  | 0, _ => none
  | fuel + 1, cs => do
    let (item, cs) ← readSpelling fuel cs
    match skipSpace cs with
    | ',' :: rest =>
      let (items, after) ← readItems fuel rest
      pure (item :: items, after)
    | ']' :: after => pure ([item], after)
    | _ => none

/-- Reads the members of an object up to its closing brace. -/
def readMembers : Nat → List Char → Option (List (List Piece × Spelling) × List Char)
  | 0, _ => none
  | fuel + 1, cs =>
    match skipSpace cs with
    | '"' :: rest => do
      let (key, cs) ← readPieces rest
      match skipSpace cs with
      | ':' :: rest =>
        let (value, cs) ← readSpelling fuel rest
        match skipSpace cs with
        | ',' :: rest =>
          let (members, after) ← readMembers fuel rest
          pure ((key, value) :: members, after)
        | '\x7d' :: after => pure ([(key, value)], after)
        | _ => none
      | _ => none
    | _ => none

end

/-- The spelling of a whole text, with nothing but space after the document. -/
def Spelling.read? (text : String) : Option Spelling :=
  let cs := text.toList
  match readSpelling (2 * cs.length + 2) cs with
  | some (document, rest) => if (skipSpace rest).isEmpty then some document else none
  | none => none

def textOfPieces? (pieces : List Piece) : Option String :=
  (joinPieces? pieces).map String.ofList

mutual

/-- The document that a spelling means; the first argument is how many containers may still be
opened. -/
def Spelling.toJsonWithin? (depth : Nat) : Spelling → Option Json
  | .null => some .null
  | .bool b => some (.bool b)
  | .number n => n.toJson?
  | .string pieces => (textOfPieces? pieces).map .string
  | .array items =>
    if depth = 0 then none else (itemsWithin? (depth - 1) items).map .array
  | .object members =>
    if depth = 0 then none else (membersWithin? (depth - 1) members).map Json.ofPairs

def itemsWithin? (depth : Nat) : List Spelling → Option (List Json)
  | [] => some []
  | item :: rest => do
    let item ← item.toJsonWithin? depth
    let rest ← itemsWithin? depth rest
    pure (item :: rest)

def membersWithin? (depth : Nat) : List (List Piece × Spelling) → Option (List (String × Json))
  | [] => some []
  | (key, value) :: rest => do
    let key ← textOfPieces? key
    let value ← value.toJsonWithin? depth
    let rest ← membersWithin? depth rest
    pure ((key, value) :: rest)

end

/-- How many containers a document may open inside one another. -/
def maxDepth : Nat := 127

def Spelling.toJson? (s : Spelling) : Option Json :=
  s.toJsonWithin? maxDepth

/-- Reads a document. -/
def parse? (text : String) : Option Json :=
  (Spelling.read? text).bind Spelling.toJson?

end CloudInventory.Json
