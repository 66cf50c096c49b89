import CloudInventory.Json.Spelling
import CloudInventory.Record.Misfit
import CloudInventory.Text.Blank

/-!
What can go wrong between a request and its page, and the text that a vendor's error response is
reduced to.
-/
namespace CloudInventory

/-- What could not be understood. -/
inductive Undecodable where
  /-- An element of the list of an endpoint. -/
  | element (endpoint : String) (misfit : Misfit)
  | fixture
  | fixtureEndpoint (endpoint : String)

def Undecodable.message : Undecodable → String
  | .element endpoint misfit => endpoint ++ ": " ++ misfit.message
  | .fixture => "fixture must be an object mapping endpoints to arrays"
  | .fixtureEndpoint endpoint => "fixture endpoint '" ++ endpoint ++ "' must be an array"

inductive ApiError where
  /-- The vendor answered with an error status. -/
  | status (code : UInt16) (message : String)
  /-- The request had no answer. -/
  | transport (reason : String)
  | decode (cause : Undecodable)
  | unknownEndpoint (endpoint : String)
  | cancelled

def ApiError.message : ApiError → String
  | .status code message => "[" ++ toString code.toNat ++ "] " ++ message
  | .transport reason => "HTTP request failed: " ++ reason
  | .decode cause => "Failed to decode response: " ++ cause.message
  | .unknownEndpoint endpoint => "Unknown endpoint: " ++ endpoint
  | .cancelled => "Listing cancelled"

/-- One reason of an error response, with the field of the request that it is about. -/
structure Complaint where
  reason : String
  field : Option String
  deriving DecidableEq, Repr

namespace Complaint

open Json (Piece Spelling textOfPieces?)

def text (c : Complaint) : String :=
  match c.field with
  | some field => field ++ ": " ++ c.reason
  | none => c.reason

def spelledText? : Spelling → Option String
  | .string pieces => textOfPieces? pieces
  | _ => none

/-- A text or null. -/
def spelledOption? : Spelling → Option (Option String)
  | .null => some none
  | spelling => (spelledText? spelling).map some

/-- The members with a name that is asked for, none of which may come twice. Every name must be
readable; the values of the other members need not be. -/
def namedMembers? (names : List String) (members : List (List Piece × Spelling)) :
    Option (Dictionary Spelling) := do
  let named ← members.mapM (fun (key, value) => (textOfPieces? key).map (·, value))
  let known := named.filter (fun m => names.contains m.1)
  if (Dictionary.keys known).Nodup then some known else none

/-- The complaint that an object, or an array of its parts, spells. -/
def ofSpelling? : Spelling → Option Complaint
  | .object members => do
    let named ← namedMembers? ["reason", "field"] members
    let reason ← (named.get? "reason").bind spelledText?
    let field ← match named.get? "field" with
      | some spelling => spelledOption? spelling
      | none => some none
    pure ⟨reason, field⟩
  | .array [reason] => do
    let reason ← spelledText? reason
    pure ⟨reason, none⟩
  | .array [reason, field] => do
    let reason ← spelledText? reason
    let field ← spelledOption? field
    pure ⟨reason, field⟩
  | _ => none

/-- The complaints that a list spells. -/
def listOfSpelling? : Spelling → Option (List Complaint)
  | .array items => items.mapM ofSpelling?
  | _ => none

/-- The complaints of the body of an error response. -/
def ofBody? (body : String) : Option (List Complaint) := do
  match ← Spelling.read? body with
  | .object members =>
    let named ← namedMembers? ["errors"] members
    (named.get? "errors").bind listOfSpelling?
  | .array [complaints] => listOfSpelling? complaints
  | _ => none

end Complaint

/-- The error of a response: the reasons that the vendor gives, or else the body without the blanks
around it. -/
def ApiError.ofResponse (code : UInt16) (body : String) : ApiError :=
  match Complaint.ofBody? body with
  | some (first :: rest) => .status code ("; ".intercalate ((first :: rest).map Complaint.text))
  | _ => .status code (Text.trim body)

end CloudInventory
