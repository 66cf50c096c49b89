import CloudInventory.Proofs.UncancelledRead

/-!
The local pass fails as a whole or keeps exactly what satisfies its entries. Which entry it fails
with does not depend on the entities or on whether the read is cancelled.
-/
namespace CloudInventory.Catalog
open Interaction
open Outcomes (FirstFault)

variable {α ρ σ : Type} {catalog : Catalog α}

theorem length_compileEntries {entries : List Entry} {ps : List (Predicate α)}
    (h : catalog.compileEntries entries = .ok ps) : ps.length = entries.length := by
  induction entries generalizing ps with
  | nil =>
    cases h
    rfl
  | cons entry rest ih =>
    simp only [compileEntries, Outcomes.bind_eq_ok] at h
    obtain ⟨p, -, others, hothers, he⟩ := h
    cases he
    rw [List.length_cons, List.length_cons, ih hothers]

/-- The name of an entry is that of a field, and its patterns are patterns. -/
def Usable (catalog : Catalog α) (entry : Entry) : Prop :=
  catalog.contains entry.name = true ∧ entry.Compiles

/-- What a local pass is to come to under a flag that does not change. Only the entries that are not
sent to the vendor are looked at. -/
structure Passes (catalog : Catalog α) (filters : List Entry) (entities : List α)
    (cancelled : Bool) (outcome : Except FilterError (List α)) : Prop where
  /-- It fails with the error of the first entry that cannot be used, or is cancelled, for which there
  has to be something to look at. -/
  fails : ∀ e, outcome = .error e ↔
    FirstFault catalog.Usable (catalog.Refuses e) (catalog.localEntries filters) ∨
      (∀ entry ∈ catalog.localEntries filters, catalog.Usable entry) ∧
        (catalog.localEntries filters ≠ [] ∧ cancelled = true ∧ entities ≠ []) ∧ e = .cancelled
  keeps : ∀ kept, outcome = .ok kept ↔
    (∀ entry ∈ catalog.localEntries filters, catalog.Usable entry) ∧
      ¬ (catalog.localEntries filters ≠ [] ∧ cancelled = true ∧ entities ≠ []) ∧
        kept = entities.filter (fun e =>
          ∀ entry ∈ catalog.localEntries filters, entry.Satisfied catalog e)
  whole : catalog.localEntries filters = [] → outcome = .ok entities

theorem keep_constant (predicates : List (Predicate α)) (entities : List α)
    (respond : List ρ → ρ → σ) (cancelled : Bool) (trace : Trace ρ) :
    ((keep predicates entities).runFrom respond (fun _ => cancelled) trace).1 =
      if cancelled = true ∧ entities ≠ [] then .error .cancelled
      else .ok (entities.filter (fun e => predicates.all (·.holds e))) := by
  cases cancelled with
  | false => simp [keep_uncancelled]
  | true => cases entities <;> rfl

/-- Entries that can be used leave the entities that satisfy them, unless the pass is cancelled with
something to look at. -/
theorem filterHere_constant {filters : List Entry} {ps : List (Predicate α)}
    (h : catalog.compileEntries (catalog.localEntries filters) = .ok ps) (entities : List α)
    (respond : List ρ → ρ → σ) (cancelled : Bool) :
    ((catalog.filterHere filters entities).run respond (fun _ => cancelled)).1 =
      if catalog.localEntries filters ≠ [] ∧ cancelled = true ∧ entities ≠ [] then
        .error .cancelled
      else .ok (catalog.satisfying filters entities) := by
  have hlength := length_compileEntries h
  cases ps with
  | nil =>
    have hnone : catalog.localEntries filters = [] := List.eq_nil_of_length_eq_zero hlength.symm
    have hwhole : catalog.satisfying filters entities = entities := by simp [satisfying, hnone]
    rw [filterHere, h, if_neg (fun hlooks => hlooks.1 hnone), hwhole]
    rfl
  | cons p rest =>
    have hsome : catalog.localEntries filters ≠ [] := by
      intro hnone
      rw [hnone] at hlength
      cases hlength
    simp only [filterHere, h, Interaction.run, keep_constant, filter_holds_eq_satisfying h, hsome,
      ne_eq, not_false_eq_true, true_and]

/-- Whatever the entities and whether or not the read is cancelled, a local pass comes to what it
is to come to. -/
theorem filterHere_passes (catalog : Catalog α) (filters : List Entry) (entities : List α)
    (respond : List ρ → ρ → σ) (cancelled : Bool) :
    catalog.Passes filters entities cancelled
      ((catalog.filterHere filters entities).run respond (fun _ => cancelled)).1 := by
  have hfirst : ∀ e, catalog.compileEntries (catalog.localEntries filters) = .error e ↔
      FirstFault catalog.Usable (catalog.Refuses e) (catalog.localEntries filters) :=
    fun _ => compileEntries_eq_error_iff
  have husable : (∃ ps, catalog.compileEntries (catalog.localEntries filters) = .ok ps) ↔
      ∀ entry ∈ catalog.localEntries filters, catalog.Usable entry := compileEntries_ok_iff
  cases hcompiled : catalog.compileEntries (catalog.localEntries filters) with
  | error e =>
    have hnot : ¬ ∀ entry ∈ catalog.localEntries filters, catalog.Usable entry := by
      rw [← husable, hcompiled]
      simp
    have hsome : catalog.localEntries filters ≠ [] := by
      intro hnone
      simp [hnone] at hnot
    rw [Interaction.run, filterHere_error hcompiled]
    rw [hcompiled] at hfirst
    exact ⟨fun e' => by simp [← hfirst, hnot], fun kept => by simp [hnot],
      fun hnone => absurd hnone hsome⟩
  | ok ps =>
    have hall := husable.mp ⟨ps, hcompiled⟩
    have hnofault : ∀ e, ¬ FirstFault catalog.Usable (catalog.Refuses e)
        (catalog.localEntries filters) := by
      intro e hfault
      rw [← hfirst, hcompiled] at hfault
      cases hfault
    rw [filterHere_constant hcompiled]
    split
    case isTrue hcancelled =>
      refine ⟨fun e => ?_, fun kept => ?_, fun hnone => absurd hnone hcancelled.1⟩
      · rw [Except.error.injEq, or_iff_right (hnofault e), and_iff_right hall,
          and_iff_right hcancelled]
        exact eq_comm
      · simp [hcancelled]
    case isFalse hgoesOn =>
      refine ⟨fun e => ?_, fun kept => ?_, fun hnone => ?_⟩
      · simp only [reduceCtorEq, hnofault, false_or, false_iff]
        exact fun h => hgoesOn h.2.1
      · rw [Except.ok.injEq, and_iff_right hall, and_iff_right hgoesOn]
        exact eq_comm
      · simp [satisfying, hnone]

end CloudInventory.Catalog
