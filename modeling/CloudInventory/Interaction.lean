/-!
Interactions: computations that send requests, get answers, and now and then look whether they have
been cancelled. An interaction is the tree of what it does next for every answer it may get;
running one supplies the answers.
-/
namespace CloudInventory

/-- A computation of an `α` that sends requests `ρ`, answered by `σ`. -/
inductive Interaction (ρ σ α : Type) where
  | done (a : α)
  | ask (request : ρ) (resume : σ → Interaction ρ σ α)
  /-- Looks whether it has been cancelled. -/
  | poll (resume : Bool → Interaction ρ σ α)

namespace Interaction

variable {ρ σ α β : Type}

/-- Goes on with the result of an interaction. -/
def bind : Interaction ρ σ α → (α → Interaction ρ σ β) → Interaction ρ σ β
  | .done a, f => f a
  | .ask request resume, f => .ask request (fun answer => (resume answer).bind f)
  | .poll resume, f => .poll (fun cancelled => (resume cancelled).bind f)

def map (f : α → β) (p : Interaction ρ σ α) : Interaction ρ σ β :=
  p.bind (fun a => .done (f a))

/-- What has happened in a run so far: how often it looked for cancellation, and what it asked. -/
structure Trace (ρ : Type) where
  polls : Nat
  requests : List ρ
  deriving Repr

/-- Runs an interaction. An answer may depend on all requests before; the flag seen at each look may
depend on how many looks came before. -/
def runFrom (respond : List ρ → ρ → σ) (cancelled : Nat → Bool) (trace : Trace ρ) :
    Interaction ρ σ α → α × Trace ρ
  | .done a => (a, trace)
  | .ask request resume =>
    runFrom respond cancelled { trace with requests := trace.requests ++ [request] }
      (resume (respond trace.requests request))
  | .poll resume =>
    runFrom respond cancelled { trace with polls := trace.polls + 1 }
      (resume (cancelled trace.polls))

/-- Runs an interaction from the beginning. -/
def run (respond : List ρ → ρ → σ) (cancelled : Nat → Bool) (p : Interaction ρ σ α) : α × Trace ρ :=
  p.runFrom respond cancelled ⟨0, []⟩

/-! ### Laws -/

/-- A run goes on with the result from where the first part ended. -/
theorem runFrom_bind (respond : List ρ → ρ → σ) (cancelled : Nat → Bool) (trace : Trace ρ)
    (p : Interaction ρ σ α) (f : α → Interaction ρ σ β) :
    (p.bind f).runFrom respond cancelled trace =
      (f (p.runFrom respond cancelled trace).1).runFrom respond cancelled
        (p.runFrom respond cancelled trace).2 := by
  induction p generalizing trace with
  | done a => rfl
  | ask request resume ih => exact ih _ _
  | poll resume ih => exact ih _ _

theorem runFrom_map (respond : List ρ → ρ → σ) (cancelled : Nat → Bool) (trace : Trace ρ)
    (p : Interaction ρ σ α) (f : α → β) :
    (p.map f).runFrom respond cancelled trace =
      (f (p.runFrom respond cancelled trace).1, (p.runFrom respond cancelled trace).2) :=
  runFrom_bind respond cancelled trace p _

end Interaction

end CloudInventory
