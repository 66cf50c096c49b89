import CloudInventory.Interaction
import Mathlib.Data.List.Basic

/-!
What happens in a run of an interaction: its looks for cancellation and its requests, in order.
-/
namespace CloudInventory.Interaction

variable {ρ σ α β : Type}

/-- What a run does besides computing. -/
inductive Event (ρ : Type) where
  | looked (cancelled : Bool)
  | asked (request : ρ)
  deriving DecidableEq, Repr

def Event.request? : Event ρ → Option ρ
  | .looked _ => none
  | .asked request => some request

/-- The looks and the requests of a run, in order. -/
def historyFrom (respond : List ρ → ρ → σ) (cancelled : Nat → Bool) (trace : Trace ρ) :
    Interaction ρ σ α → List (Event ρ)
  | .done _ => []
  | .ask request resume =>
    .asked request :: historyFrom respond cancelled
      { trace with requests := trace.requests ++ [request] }
      (resume (respond trace.requests request))
  | .poll resume =>
    .looked (cancelled trace.polls) :: historyFrom respond cancelled
      { trace with polls := trace.polls + 1 } (resume (cancelled trace.polls))

/-- What a run has asked in the end is what its history tells. -/
theorem requests_runFrom (respond : List ρ → ρ → σ) (cancelled : Nat → Bool) (trace : Trace ρ)
    (p : Interaction ρ σ α) :
    (p.runFrom respond cancelled trace).2.requests =
      trace.requests ++ (p.historyFrom respond cancelled trace).filterMap Event.request? := by
  induction p generalizing trace with
  | done a => exact (List.append_nil _).symm
  | ask request resume ih =>
    rw [runFrom, ih, historyFrom, List.append_assoc]
    rfl
  | poll resume ih =>
    rw [runFrom, ih, historyFrom]
    rfl

theorem historyFrom_bind (respond : List ρ → ρ → σ) (cancelled : Nat → Bool) (trace : Trace ρ)
    (p : Interaction ρ σ α) (f : α → Interaction ρ σ β) :
    (p.bind f).historyFrom respond cancelled trace =
      p.historyFrom respond cancelled trace ++
        (f (p.runFrom respond cancelled trace).1).historyFrom respond cancelled
          (p.runFrom respond cancelled trace).2 := by
  induction p generalizing trace with
  | done a => rfl
  | ask request resume ih => exact congrArg _ (ih _ _)
  | poll resume ih => exact congrArg _ (ih _ _)

/-- What is done with the result of a run adds nothing to its history. -/
theorem historyFrom_map (respond : List ρ → ρ → σ) (cancelled : Nat → Bool) (trace : Trace ρ)
    (p : Interaction ρ σ α) (f : α → β) :
    (p.map f).historyFrom respond cancelled trace = p.historyFrom respond cancelled trace :=
  (historyFrom_bind respond cancelled trace p _).trans (List.append_nil _)

/-! ### Requests after looks -/

/-- Right before each request there is a look that finds nothing. -/
def Guarded (history : List (Event ρ)) : Prop :=
  ∀ before request after, history = before ++ .asked request :: after →
    before.getLast? = some (.looked false)

theorem not_asked_cons {history : List (Event ρ)} (h : ∀ request, .asked request ∉ history)
    (flag : Bool) (request : ρ) : .asked request ∉ .looked flag :: history := by
  intro hmem
  rcases List.mem_cons.mp hmem with heq | hrest
  · cases heq
  · exact h request hrest

theorem guarded_of_silent {history : List (Event ρ)} (h : ∀ request, .asked request ∉ history) :
    Guarded history := by
  intro before request after heq
  exact absurd (heq ▸ List.mem_append_right _ (List.mem_cons_self ..)) (h request)

theorem guarded_asked (request : ρ) : Guarded [.looked false, .asked request] := by
  intro before request after heq
  cases before with
  | nil => cases heq
  | cons e before =>
    obtain ⟨rfl, hrest⟩ := List.cons.inj heq
    cases before with
    | nil => rfl
    | cons e before =>
      obtain ⟨-, hnone⟩ := List.cons.inj hrest
      exact absurd hnone (by simp)

theorem Guarded.append {first second : List (Event ρ)} (hfirst : Guarded first)
    (hsecond : Guarded second) : Guarded (first ++ second) := by
  intro before request after heq
  rcases List.append_eq_append_iff.mp heq with ⟨middle, rfl, hrest⟩ | ⟨middle, rfl, hrest⟩
  · rw [List.getLast?_append, hsecond middle request after hrest, Option.some_or]
  · cases middle with
    | nil =>
      have hlast := hsecond [] request after hrest.symm
      cases hlast
    | cons e middle =>
      obtain ⟨rfl, -⟩ := List.cons.inj hrest
      exact hfirst before request middle rfl

/-- What has happened up to some point is guarded if the whole is. -/
theorem Guarded.of_append {first second : List (Event ρ)} (h : Guarded (first ++ second)) :
    Guarded first := by
  intro before request after heq
  refine h before request (after ++ second) ?_
  rw [heq, List.append_assoc, List.cons_append]

theorem guarded_flatMap (requests : List ρ) :
    Guarded (requests.flatMap (fun request => [.looked false, .asked request])) := by
  induction requests with
  | nil => exact guarded_of_silent (fun _ => List.not_mem_nil)
  | cons request rest ih => exact (guarded_asked request).append ih

end CloudInventory.Interaction
