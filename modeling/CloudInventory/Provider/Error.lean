import CloudInventory.Diagnostic

/-!
Failures of a provider, with the resource they are about and what caused them.
-/
namespace CloudInventory

/-- What a read result is called: the type of the data source and a name. -/
structure ResourceId where
  type : String
  name : String
  deriving DecidableEq, Repr

def ResourceId.text (id : ResourceId) : String :=
  id.type ++ "." ++ id.name

structure ProviderError where
  message : String
  resource : Option ResourceId := none
  /-- The text of the failure behind this one. -/
  cause : Option String := none
  deriving DecidableEq, Repr

namespace ProviderError

def text (e : ProviderError) : String :=
  (match e.resource with
    | some id => "[" ++ id.text ++ "] "
    | none => "") ++ e.message ++
  match e.cause with
    | some cause => ": " ++ cause
    | none => ""

def toDiagnostic (e : ProviderError) : Diagnostic :=
  .error "Provider error" e.text none

end ProviderError

end CloudInventory
