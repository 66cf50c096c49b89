import CloudInventory.Proofs.FilterDocument
import CloudInventory.Proofs.FixturePages
import CloudInventory.Proofs.UncancelledRead
import CloudInventory.Source.Basic

/-!
What a read asks of the vendor: the pages of one list, from the first on without a gap, all with the
same filter, and nothing after them.
-/
namespace CloudInventory

/-! ### Computations that ask nothing -/

namespace Interaction

variable {ρ σ α β : Type}

/-- Nothing is asked, whatever the answers would be and whether or not it is cancelled. -/
def Silent (p : Interaction ρ σ α) : Prop :=
  ∀ respond cancelled trace, (p.runFrom respond cancelled trace).2.requests = trace.requests

theorem silent_done (a : α) : (done a : Interaction ρ σ α).Silent :=
  fun _ _ _ => rfl

theorem silent_poll {resume : Bool → Interaction ρ σ α} (h : ∀ flag, (resume flag).Silent) :
    (poll resume).Silent :=
  fun respond cancelled _ => h _ respond cancelled _

theorem Silent.map {p : Interaction ρ σ α} (h : p.Silent) (f : α → β) : (p.map f).Silent := by
  intro respond cancelled trace
  rw [runFrom_map]
  exact h respond cancelled trace

end Interaction

namespace Catalog
open Interaction

variable {α ρ σ : Type} {catalog : Catalog α}

theorem silent_keep (predicates : List (Predicate α)) (entities : List α) :
    (keep predicates entities : Interaction ρ σ _).Silent := by
  induction entities with
  | nil => exact silent_done _
  | cons entity rest ih =>
    refine silent_poll (fun flag => ?_)
    cases flag with
    | true => exact silent_done _
    | false => exact ih.map _

theorem silent_filterHere (filters : List Entry) (entities : List α) :
    (catalog.filterHere filters entities : Interaction ρ σ _).Silent := by
  unfold filterHere
  split
  · exact silent_done _
  · exact silent_done _
  · exact silent_keep _ _

/-- Once the list has come or failed, nothing more is asked. -/
theorem silent_afterList (filters : List Entry) (listed : Except String (List α)) :
    (catalog.afterList filters listed : Interaction ρ σ _).Silent := by
  cases listed with
  | error reason => exact silent_poll (fun _ => silent_done _)
  | ok entities =>
    refine silent_poll (fun flag => ?_)
    cases flag with
    | true => exact silent_done _
    | false => exact silent_filterHere filters entities

end Catalog

/-! ### The pages of a list -/

namespace Listing
open Interaction

variable {α : Type} {endpoint filter : String} {pageSize : UInt32}

/-- The requests for `count` pages of a list, one after the other. -/
def consecutive (endpoint : String) (pageSize : UInt32) (filter : String) (first count : Nat) :
    List Request :=
  (List.range' first count).map (fun page => ⟨endpoint, .ofNat page, pageSize, some filter⟩)

theorem consecutive_succ (page : UInt32) (count : Nat) :
    consecutive endpoint pageSize filter page.toNat (count + 1) =
      ⟨endpoint, page, pageSize, some filter⟩ ::
        consecutive endpoint pageSize filter (page.toNat + 1) count := by
  rw [consecutive, List.range'_succ, List.map_cons, UInt32.ofNat_toNat]
  rfl

theorem consecutive_one (page : UInt32) :
    consecutive endpoint pageSize filter page.toNat 1 =
      [⟨endpoint, page, pageSize, some filter⟩] :=
  consecutive_succ page 0

/-- A walk that is not cancelled asks for its page and then for those after it, in turn. -/
theorem requests_walkFrom (respond : List Request → Request → Reply) (read : Reader α)
    (page : UInt32) (trace : Trace Request) :
    ∃ count, 0 < count ∧ page.toNat + count ≤ UInt32.size ∧
      ((walkFrom endpoint pageSize filter read page).runFrom respond (fun _ => false)
          trace).2.requests =
        trace.requests ++ consecutive endpoint pageSize filter page.toNat count := by
  induction page using page_induction generalizing trace with
  | step page ih =>
    have honly : ∃ count, 0 < count ∧ page.toNat + count ≤ UInt32.size ∧
        trace.requests ++ [⟨endpoint, page, pageSize, some filter⟩] =
          trace.requests ++ consecutive endpoint pageSize filter page.toNat count :=
      ⟨1, Nat.one_pos, page.toNat_lt_size, by rw [consecutive_one]⟩
    rw [walkFrom_uncancelled]
    dsimp only
    cases respond trace.requests ⟨endpoint, page, pageSize, some filter⟩ with
    | error e => exact honly
    | ok response =>
      dsimp only
      cases elements endpoint read response with
      | error e => exact honly
      | ok entities =>
        dsimp only
        split
        case isFalse => exact honly
        case isTrue hmore =>
          have hnext := toNat_next hmore
          obtain ⟨count, -, hbound, hrequests⟩ := ih response.pages hmore
            ⟨trace.polls + 1, trace.requests ++ [⟨endpoint, page, pageSize, some filter⟩]⟩
          refine ⟨count + 1, Nat.succ_pos count, by omega, ?_⟩
          rw [hrequests, hnext, consecutive_succ, List.append_assoc]
          rfl

end Listing

/-! ### The requests of a read -/

namespace Source
open Interaction

variable {α : Type} {source : Source α} {query : Query}

/-- A query that is in order asks for the first pages of the list, with its filter. -/
theorem requests_find (hchecked : source.catalog.checkQuery query.filters query.orderBy = .ok ())
    (respond : List Request → Request → Reply) (pageSize : UInt32) (trace : Trace Request) :
    ∃ count, 0 < count ∧ count < UInt32.size ∧
      ((source.find pageSize query).runFrom respond (fun _ => false) trace).2.requests =
        trace.requests ++ Listing.consecutive source.endpoint pageSize
          (source.catalog.filterDocument query.filters query.order query.orderBy).compact
          1 count := by
  have hfilter : source.catalog.checkedFilter query.filters query.order query.orderBy = .ok
      (source.catalog.filterDocument query.filters query.order query.orderBy).compact :=
    Catalog.checkedFilter_eq_ok hchecked
  obtain ⟨count, hpositive, hbound, hrequests⟩ := Listing.requests_walkFrom respond
    source.reader 1 ⟨trace.polls + 1, trace.requests⟩
  refine ⟨count, hpositive, by rwa [UInt32.toNat_one, Nat.add_comm] at hbound, ?_⟩
  rw [UInt32.toNat_one] at hrequests
  rw [← hrequests, find, Catalog.readQuery, runFrom_map,
    Catalog.listAndFilter_uncancelled hfilter (Prod.eta _).symm, Catalog.silent_afterList, list,
    runFrom_map, Listing.all]

end Source

end CloudInventory
