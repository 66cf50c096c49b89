import CloudInventory.Filter.Read
import CloudInventory.Proofs.Matching

/-!
What a read that is never cancelled comes to, given what its list comes to.
-/
namespace CloudInventory.Catalog
open Interaction

variable {α ρ σ : Type} {catalog : Catalog α} {respond : List ρ → ρ → σ}

/-- The entities that satisfy all the entries which a read evaluates itself. -/
def satisfying (catalog : Catalog α) (filters : List Entry) (entities : List α) : List α :=
  entities.filter (fun e => ∀ entry ∈ catalog.localEntries filters, entry.Satisfied catalog e)

theorem keep_uncancelled (predicates : List (Predicate α)) (entities : List α) (trace : Trace ρ) :
    (keep predicates entities).runFrom respond (fun _ => false) trace =
      (.ok (entities.filter (fun e => predicates.all (·.holds e))),
        ⟨trace.polls + entities.length, trace.requests⟩) := by
  induction entities generalizing trace with
  | nil => rfl
  | cons entity rest ih =>
    simp only [keep, runFrom, Bool.false_eq_true, if_false, runFrom_map, ih, Except.map,
      List.filter_cons, List.length_cons]
    congr 2
    omega

theorem filter_holds_eq_satisfying {filters : List Entry} {predicates : List (Predicate α)}
    (h : catalog.compileEntries (catalog.localEntries filters) = .ok predicates)
    (entities : List α) :
    entities.filter (fun e => predicates.all (·.holds e)) = catalog.satisfying filters entities := by
  unfold satisfying
  apply List.filter_congr
  intro e _
  exact Bool.eq_iff_iff.mpr ((holds_of_compileEntries h e).trans decide_eq_true_iff.symm)

/-- Entries that compile leave exactly the entities that satisfy them. -/
theorem filterHere_uncancelled {filters : List Entry} {predicates : List (Predicate α)}
    (h : catalog.compileEntries (catalog.localEntries filters) = .ok predicates)
    (entities : List α) (trace : Trace ρ) :
    ∃ polls, (catalog.filterHere filters entities).runFrom respond (fun _ => false) trace =
      (.ok (catalog.satisfying filters entities), ⟨polls, trace.requests⟩) := by
  unfold filterHere
  rw [h, ← filter_holds_eq_satisfying h]
  cases predicates with
  | nil => exact ⟨trace.polls, by simp [runFrom]⟩
  | cons p ps => exact ⟨_, keep_uncancelled (p :: ps) entities trace⟩

theorem filterHere_error {filters : List Entry} {e : FilterError}
    (h : catalog.compileEntries (catalog.localEntries filters) = .error e) (entities : List α)
    (cancelled : Nat → Bool) (trace : Trace ρ) :
    (catalog.filterHere filters entities).runFrom respond cancelled trace = (.error e, trace) := by
  simp [filterHere, h, runFrom]

variable {list : String → Interaction ρ σ (Except String (List α))} {filters : List Entry}
  {order : Option Order} {orderBy : Option String} {filter : String}

/-- A filtered read goes on from where its list has ended. -/
theorem listAndFilter_uncancelled (h : catalog.checkedFilter filters order orderBy = .ok filter)
    {trace later : Trace ρ} {listed : Except String (List α)}
    (hlist : (list filter).runFrom respond (fun _ => false) ⟨trace.polls + 1, trace.requests⟩ =
      (listed, later)) :
    (catalog.listAndFilter list filters order orderBy).runFrom respond (fun _ => false) trace =
      (catalog.afterList filters listed).runFrom respond (fun _ => false) later := by
  simp only [listAndFilter, h, runFrom, Bool.false_eq_true, if_false, runFrom_bind, hlist]

theorem afterList_ok_uncancelled {predicates : List (Predicate α)}
    (h : catalog.compileEntries (catalog.localEntries filters) = .ok predicates)
    (entities : List α) (trace : Trace ρ) :
    ∃ polls, (catalog.afterList filters (.ok entities)).runFrom respond (fun _ => false) trace =
      (.ok (catalog.satisfying filters entities), ⟨polls, trace.requests⟩) := by
  simp only [afterList, runFrom, Bool.false_eq_true, if_false]
  exact filterHere_uncancelled h entities _

/-- What becomes of any list: its failure, else that of an entry, else the entities that satisfy the
entries left to the read. -/
theorem afterList_uncancelled (listed : Except String (List α)) (trace : Trace ρ) :
    ((catalog.afterList filters listed).runFrom respond (fun _ => false) trace).1 = (do
      let entities ← listed.mapError .list
      let _ ← catalog.compileEntries (catalog.localEntries filters)
      pure (catalog.satisfying filters entities)) := by
  cases listed with
  | error reason => rfl
  | ok entities =>
    cases hcompiled : catalog.compileEntries (catalog.localEntries filters) with
    | error e =>
      simp only [afterList, runFrom, Bool.false_eq_true, if_false, filterHere_error hcompiled]
      rfl
    | ok predicates =>
      have hrun : ∃ polls,
          (catalog.afterList filters (.ok entities)).runFrom respond (fun _ => false) trace =
            (.ok (catalog.satisfying filters entities), ⟨polls, trace.requests⟩) :=
        afterList_ok_uncancelled hcompiled entities trace
      obtain ⟨polls, hkept⟩ := hrun
      rw [hkept]
      rfl

/-- What a query makes of its list, narrowed to the most recent entity if that is asked for. -/
def concluded (catalog : Catalog α) (query : Query) (key : Option (LatestKey α))
    (listed : Except String (List α)) : Except FilterError (List α) := do
  let entities ← listed.mapError .list
  let _ ← catalog.compileEntries (catalog.localEntries query.filters)
  narrow query.latest key (catalog.satisfying query.filters entities)

/-- A read that is not cancelled concludes its query on what its list brings. -/
theorem readQuery_uncancelled {query : Query}
    (h : catalog.checkedFilter query.filters query.order query.orderBy = .ok filter)
    (key : Option (LatestKey α)) (trace : Trace ρ) :
    ((catalog.readQuery list query key).runFrom respond (fun _ => false) trace).1 =
      catalog.concluded query key
        ((list filter).runFrom respond (fun _ => false) ⟨trace.polls + 1, trace.requests⟩).1 := by
  rw [readQuery, runFrom_map, listAndFilter_uncancelled h (Prod.eta _).symm, afterList_uncancelled,
    concluded]
  generalize ((list filter).runFrom respond (fun _ => false) _).1 = listed
  cases listed with
  | error reason => rfl
  | ok entities => cases catalog.compileEntries (catalog.localEntries query.filters) <;> rfl

end CloudInventory.Catalog
