import CloudInventory.Binary64.Notation
import CloudInventory.Text.Quoted

/-!
Field values: what an accessor finds in an entity. Matching is on texts: a scalar has one text,
null the empty one, and a list is searched leaf by leaf, in order, up to the first hit.
-/
namespace CloudInventory

inductive FieldValue where
  | null
  | string (s : String)
  | int (n : Int64)
  | bool (b : Bool)
  | float (x : Binary64)
  | list (items : List FieldValue)
  deriving Inhabited

namespace FieldValue

def texts (items : List String) : FieldValue :=
  .list (items.map .string)

/-- The value of something that may be absent. -/
def ofOption {α : Type} (wrap : α → FieldValue) : Option α → FieldValue
  | none => .null
  | some a => wrap a

/-- The text that a scalar is matched by; a list has none. -/
def normalize? : FieldValue → Option String
  | .null => some ""
  | .string s => some s
  | .int n => some (toString n.toInt)
  | .bool b => some (if b then "true" else "false")
  | .float x => some x.wholeText
  | .list _ => none

def isNull : FieldValue → Bool
  | .null => true
  | _ => false

def asString? : FieldValue → Option String
  | .string s => some s
  | _ => none

mutual

/-- The texts of the scalar leaves, in order. -/
def leaves : FieldValue → List String
  | .list items => itemLeaves items
  | scalar => scalar.normalize?.toList

def itemLeaves : List FieldValue → List String
  | [] => []
  | item :: rest => item.leaves ++ itemLeaves rest

end

mutual

/-- Offers the texts of the leaves in order to a test that may keep a state, until it accepts
one. -/
def search {σ : Type} (test : σ → String → Bool × σ) (state : σ) : FieldValue → Bool × σ
  | .list items => searchItems test state items
  | scalar =>
    match scalar.normalize? with
    | some text => test state text
    | none => (false, state)

def searchItems {σ : Type} (test : σ → String → Bool × σ) (state : σ) :
    List FieldValue → Bool × σ
  | [] => (false, state)
  | item :: rest =>
    match item.search test state with
    | (true, state) => (true, state)
    | (false, state) => searchItems test state rest

end

/-- Whether a test accepts the text of some leaf. -/
def anyScalar (accepts : String → Bool) (v : FieldValue) : Bool :=
  (v.search (fun _ text => (accepts text, ())) ()).1

mutual

/-- How a field value is shown in a message. -/
def listing : FieldValue → String
  | .null => "Null"
  | .string s => "String(" ++ Text.quoted s ++ ")"
  | .int n => "Int(" ++ toString n.toInt ++ ")"
  | .bool b => "Bool(" ++ (if b then "true" else "false") ++ ")"
  | .float x => "Float(" ++ x.inMessage ++ ")"
  | .list items => "List([" ++ ", ".intercalate (itemListings items) ++ "])"

def itemListings : List FieldValue → List String
  | [] => []
  | item :: rest => item.listing :: itemListings rest

end

end FieldValue

end CloudInventory
