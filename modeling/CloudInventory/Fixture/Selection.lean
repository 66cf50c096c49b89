import CloudInventory.Api.Error
import CloudInventory.Json.Writer

/-!
Evaluating a filter on plain documents: which items satisfy all clauses, and in which order they
come. Texts are compared character by character, and what is no text by its written form.
-/
namespace CloudInventory.Fixture

/-- The error for a filter that cannot be evaluated. -/
def invalidFilter (reason : String) : ApiError :=
  .status 400 ("Invalid X-Filter: " ++ reason)

/-- The text by which a document is compared; null is the empty text. -/
def comparable : Json → String
  | .null => ""
  | .string s => s
  | other => other.compact

/-- Whether a member has an expected value: itself, or as one of its elements. A member that is
absent has none. -/
def memberMatches : Option Json → Json → Bool
  | none, _ => false
  | some (.array elements), expected =>
    elements.any (fun e => comparable e = comparable expected)
  | some found, expected => comparable found = comparable expected

mutual

/-- Whether an item satisfies a clause: one of its alternatives, or else all its members. -/
def satisfies (item : Json) : Json → Except ApiError Bool
  | .object members =>
    match satisfiesOr? item members with
    | some result => result
    | none => .ok (members.all (fun m => memberMatches (item.member? m.1) m.2))
  | _ => .error (invalidFilter "clauses must be objects")

/-- Whether an item satisfies the alternatives among the members of a clause, if there are any. -/
def satisfiesOr? (item : Json) : List (String × Json) → Option (Except ApiError Bool)
  | [] => none
  | (key, .array alternatives) :: rest =>
    if key = "+or" then some (satisfiesAny item alternatives) else satisfiesOr? item rest
  | (key, _) :: rest =>
    if key = "+or" then some (.error (invalidFilter "+or must be an array"))
    else satisfiesOr? item rest

/-- Whether an item satisfies one of the alternatives; those after it are not looked at. -/
def satisfiesAny (item : Json) : List Json → Except ApiError Bool
  | [] => .ok false
  | alternative :: rest =>
    match satisfies item alternative with
    | .error e => .error e
    | .ok true => .ok true
    | .ok false => satisfiesAny item rest

end

/-- Whether an item satisfies all clauses; those after one that it does not are not looked at. -/
def satisfiesAll (item : Json) : List Json → Except ApiError Bool
  | [] => .ok true
  | clause :: rest =>
    match satisfies item clause with
    | .error e => .error e
    | .ok false => .ok false
    | .ok true => satisfiesAll item rest

/-- The items that satisfy all clauses. -/
def matching (clauses : List Json) : List Json → Except ApiError (List Json)
  | [] => .ok []
  | item :: rest => do
    let kept ← satisfiesAll item clauses
    let others ← matching clauses rest
    pure (if kept then item :: others else others)

/-! ### Order -/

/-- The order of members: numbers by value, all else by text, and what is absent first. -/
def compareMembers : Option Json → Option Json → Ordering
  | none, none => .eq
  | none, some _ => .lt
  | some _, none => .gt
  | some a, some b =>
    match a.number?, b.number? with
    | some x, some y => compare x.place y.place
    | _, _ => compareOfLessAndEq (comparable a) (comparable b)

/-- Puts an element after all that it does not come before, in a list that is held from its last
element to its first. -/
def insertLast {α : Type} (before : α → α → Bool) (a : α) : List α → List α
  | [] => [a]
  | last :: rest => if before a last then last :: insertLast before a rest else a :: last :: rest

/-- The elements in order; those of which none comes before the other stay as they are. -/
def sortStably {α : Type} (before : α → α → Bool) (elements : List α) : List α :=
  (elements.foldl (fun sorted a => insertLast before a sorted) []).reverse

/-- Whether one item comes before another. -/
def comesBefore (field : String) (descending : Bool) (a b : Json) : Bool :=
  let order := compareMembers (a.member? field) (b.member? field)
  if descending then order = .gt else order = .lt

/-- The items in the order that a filter asks for; without a field to order by they stay as they
are. -/
def arranged (filter : Dictionary Json) (items : List Json) : List Json :=
  match filter.get? "+order_by" with
  | some (.string field) =>
    let descending :=
      match filter.get? "+order" with
      | some (.string order) => order ≠ "asc"
      | _ => true
    sortStably (comesBefore field descending) items
  | _ => items

/-- The clauses of a filter. -/
def clausesOf (filter : Dictionary Json) : Except ApiError (List Json) :=
  match filter.get? "+and" with
  | none => .ok []
  | some (.array clauses) => .ok clauses
  | some _ => .error (invalidFilter "+and must be an array")

/-- The items that a filter selects, in its order. -/
def select (items : List Json) (text : String) : Except ApiError (List Json) :=
  match Json.parse? text with
  | none => .error (invalidFilter "<json error>")
  | some (.object filter) => do
    let clauses ← clausesOf filter
    let kept ← matching clauses items
    pure (arranged filter kept)
  | some _ => .error (invalidFilter "not an object")

end CloudInventory.Fixture
