import CloudInventory.Proofs.FixturePages
import CloudInventory.Proofs.RunHistory
import CloudInventory.Source.Basic

/-!
Where a read looks for cancellation: before it has the list fetched, before each page, when the list
has come or failed, and before each entity that it evaluates itself.
-/
namespace CloudInventory
open Interaction

namespace Listing

variable {α : Type}

/-- A walk looks before each page that it asks for, and at no other time. -/
theorem historyFrom_walkFrom (respond : List Request → Request → Reply) (endpoint : String)
    (pageSize : UInt32) (filter : String) (read : Reader α) (page : UInt32)
    (trace : Trace Request) :
    ∃ pages,
      ((walkFrom endpoint pageSize filter read page).runFrom respond (fun _ => false) trace).2 =
        ⟨trace.polls + pages.length, trace.requests ++ pages⟩ ∧
      (walkFrom endpoint pageSize filter read page).historyFrom respond (fun _ => false) trace =
        pages.flatMap (fun page => [.looked false, .asked page]) := by
  induction page using page_induction generalizing trace with
  | step page ih =>
    rw [walkFrom]
    simp only [runFrom, historyFrom, Bool.false_eq_true, if_false]
    cases respond trace.requests ⟨endpoint, page, pageSize, some filter⟩ with
    | error e => exact ⟨[_], rfl, rfl⟩
    | ok response =>
      dsimp only
      cases elements endpoint read response with
      | error e => exact ⟨[_], rfl, rfl⟩
      | ok entities =>
        dsimp only
        split
        case isFalse => exact ⟨[_], rfl, rfl⟩
        case isTrue hmore =>
          obtain ⟨pages, hend, hhistory⟩ := ih response.pages hmore
            ⟨trace.polls + 1, trace.requests ++ [⟨endpoint, page, pageSize, some filter⟩]⟩
          refine ⟨⟨endpoint, page, pageSize, some filter⟩ :: pages, ?_, ?_⟩
          · rw [runFrom_map, hend, List.append_assoc, List.length_cons, Nat.add_assoc,
              Nat.add_comm 1]
            rfl
          · rw [historyFrom_map, hhistory]
            rfl

end Listing

namespace Catalog

variable {α ρ σ : Type} {catalog : Catalog α} {respond : List ρ → ρ → σ} {cancelled : Nat → Bool}

/-- How many entities of a list a read evaluates itself: none if the list has failed, if no entry is
left to the read, or if an entry does not compile. -/
def evaluated (catalog : Catalog α) (filters : List Entry) : Except String (List α) → Nat
  | .error _ => 0
  | .ok entities =>
    match catalog.compileEntries (catalog.localEntries filters) with
    | .ok (_ :: _) => entities.length
    | _ => 0

theorem historyFrom_keep (predicates : List (Predicate α)) (entities : List α) (trace : Trace ρ) :
    (keep predicates entities).historyFrom respond (fun _ => false) trace =
      List.replicate entities.length (.looked false) := by
  induction entities generalizing trace with
  | nil => rfl
  | cons entity rest ih =>
    simp only [keep, historyFrom, Bool.false_eq_true, if_false, historyFrom_map, ih,
      List.length_cons, List.replicate_succ]

/-- Once the list has come or failed there is a look, and then one before each entity. -/
theorem historyFrom_afterList (filters : List Entry) (listed : Except String (List α))
    (trace : Trace ρ) :
    (catalog.afterList filters listed).historyFrom respond (fun _ => false) trace =
      .looked false :: List.replicate (catalog.evaluated filters listed) (.looked false) := by
  cases listed with
  | error reason => rfl
  | ok entities =>
    simp only [afterList, historyFrom, Bool.false_eq_true, if_false, filterHere, evaluated]
    cases catalog.compileEntries (catalog.localEntries filters) with
    | error e => rfl
    | ok predicates =>
      cases predicates with
      | nil => rfl
      | cons p ps => exact congrArg _ (historyFrom_keep (p :: ps) entities _)

/-! ### What a look decides -/

theorem keep_cancelled (predicates : List (Predicate α)) {entities : List α} {trace : Trace ρ}
    {place : Nat} (hplace : place < entities.length)
    (hraised : cancelled (trace.polls + place) = true) :
    ((keep predicates entities).runFrom respond cancelled trace).1 = .error .cancelled := by
  induction entities generalizing trace place with
  | nil => exact absurd hplace (Nat.not_lt_zero _)
  | cons entity rest ih =>
    simp only [keep, runFrom]
    cases hnow : cancelled trace.polls with
    | true => rfl
    | false =>
      cases place with
      | zero => exact absurd hraised (by simp [hnow])
      | succ place =>
        have hrest : cancelled (trace.polls + 1 + place) = true := by
          rwa [Nat.add_assoc, Nat.add_comm 1]
        simp only [Bool.false_eq_true, if_false, runFrom_map]
        rw [ih (Nat.lt_of_succ_lt_succ hplace) hrest]
        rfl

/-- A flag that is raised when the list has come or failed, or at an entity that the read evaluates,
ends it. -/
theorem afterList_cancelled {filters : List Entry} {listed : Except String (List α)}
    {trace : Trace ρ} {place : Nat} (hplace : place ≤ catalog.evaluated filters listed)
    (hraised : cancelled (trace.polls + place) = true) :
    ((catalog.afterList filters listed).runFrom respond cancelled trace).1 = .error .cancelled := by
  cases place with
  | zero =>
    have hnow : cancelled trace.polls = true := hraised
    cases listed <;> simp only [afterList, runFrom, hnow, if_true]
  | succ place =>
    cases listed with
    | error reason => exact absurd hplace (Nat.not_succ_le_zero _)
    | ok entities =>
      simp only [evaluated] at hplace
      simp only [afterList, runFrom]
      cases cancelled trace.polls with
      | true => rfl
      | false =>
        simp only [Bool.false_eq_true, if_false, filterHere]
        cases hcompiled : catalog.compileEntries (catalog.localEntries filters) with
        | error e =>
          rw [hcompiled] at hplace
          exact absurd hplace (Nat.not_succ_le_zero _)
        | ok predicates =>
          rw [hcompiled] at hplace
          cases predicates with
          | nil => exact absurd hplace (Nat.not_succ_le_zero _)
          | cons p ps =>
            have hrest : cancelled (trace.polls + 1 + place) = true := by
              rwa [Nat.add_assoc, Nat.add_comm 1]
            exact keep_cancelled (p :: ps) hplace hrest

end Catalog

end CloudInventory
