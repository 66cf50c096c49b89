import CloudInventory.Api.Page
import CloudInventory.Fixture.Paging
import CloudInventory.Fixture.Selection

/-!
Fixtures: a vendor held in memory, with a list of items for each endpoint, which answers every
request in the same way whatever was asked before.
-/
namespace CloudInventory

structure Fixture where
  endpoints : Dictionary (List Json)
  /-- How many items the reads of this fixture ask for at once. -/
  pageSize : UInt32

namespace Fixture

/-- A fixture that asks for pages as large as they may be. -/
def ofEndpoints (endpoints : Dictionary (List Json)) : Fixture :=
  ⟨endpoints, .ofNat largestPage⟩

/-- At least one item is asked for at once. -/
def withPageSize (size : UInt32) (f : Fixture) : Fixture :=
  { f with pageSize := max size 1 }

/-- The items of the endpoints that the members of a document spell. -/
def endpointsOf : List (String × Json) → Except ApiError (Dictionary (List Json))
  | [] => .ok []
  | (endpoint, .array items) :: rest => (endpointsOf rest).map ((endpoint, items) :: ·)
  | (endpoint, _) :: _ => .error (.decode (.fixtureEndpoint endpoint))

/-- The fixture that a document spells: an object with an array for each endpoint. -/
def ofJson : Json → Except ApiError Fixture
  | .object members => (endpointsOf members).map ofEndpoints
  | _ => .error (.decode .fixture)

/-- The items of a request, over all pages. -/
def selected (f : Fixture) (request : Request) : Except ApiError (List Json) :=
  match f.endpoints.get? request.endpoint with
  | none => .error (.unknownEndpoint request.endpoint)
  | some items =>
    match request.filter with
    | some text => select items text
    | none => .ok items

/-- The answer to a request. -/
def respond (f : Fixture) (request : Request) : Reply := do
  let items ← f.selected request
  let results := UInt64.ofNat items.length
  let (pages, start) := cut request.page request.pageSize results
  pure {
    data := (items.drop start.toNat).take (max request.pageSize 1).toNat
    page := request.page
    pages := pages.toUInt32
    results := results.toUInt32 }

/-- Runs a computation against the fixture and tells what it asked for. The flag says whether it
finds itself cancelled. -/
def run {α : Type} (f : Fixture) (cancelled : Bool) (listing : Interaction Request Reply α) :
    α × List Request :=
  let (a, trace) := listing.run (fun _ request => f.respond request) (fun _ => cancelled)
  (a, trace.requests)

end Fixture

end CloudInventory
