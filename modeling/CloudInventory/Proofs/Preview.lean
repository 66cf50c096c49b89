import CloudInventory.Proofs.FixtureRead
import CloudInventory.Proofs.PlannedQuery
import CloudInventory.Proofs.RequestLog
import CloudInventory.Proofs.Split

/-!
A plan tells beforehand what a read does: the filter that it sends with every page, the entries that
it evaluates itself, and the identifier of its result.
-/
namespace CloudInventory

namespace Catalog

variable {α : Type} {catalog : Catalog α}

/-- A filter holds what each entry adds to it, in order, and the names are those of the entries that
add nothing. -/
structure Splits (catalog : Catalog α) (filters : List Entry) (filter : String)
    (names : List String) : Prop where
  clauses : ∃ document, Json.parse? filter = some document ∧
    document.itemsAt "+and" = filters.flatMap (fun entry => catalog.clauses [entry])
  others : names =
    (filters.filter (fun entry => (catalog.clauses [entry]).isEmpty)).map Entry.name

theorem clauses_singleton (catalog : Catalog α) (entry : Entry) :
    catalog.clauses [entry] = if catalog.isRemoteEntry entry then [clause entry] else [] := by
  rw [clauses, List.filter_singleton]
  cases catalog.isRemoteEntry entry <;> rfl

theorem clauses_eq_flatMap (catalog : Catalog α) (filters : List Entry) :
    catalog.clauses filters = filters.flatMap (fun entry => catalog.clauses [entry]) := by
  induction filters with
  | nil => rfl
  | cons entry rest ih =>
    rw [List.flatMap_cons, ← ih, clauses_singleton, clauses, clauses, List.filter_cons]
    cases catalog.isRemoteEntry entry <;> rfl

theorem localEntries_eq_filter (catalog : Catalog α) (filters : List Entry) :
    catalog.localEntries filters =
      filters.filter (fun entry => (catalog.clauses [entry]).isEmpty) := by
  refine List.filter_congr (fun entry _ => ?_)
  rw [clauses_singleton]
  cases catalog.isRemoteEntry entry <;> rfl

theorem splits_filterDocument (catalog : Catalog α) (filters : List Entry) (order : Option Order)
    (orderBy : Option String) :
    catalog.Splits filters (catalog.filterDocument filters order orderBy).compact
      ((catalog.localEntries filters).map Entry.name) where
  clauses := by
    refine ⟨_, parse?_filterDocument filters order orderBy, ?_⟩
    rw [← clauses_eq_flatMap]
    rfl
  others := by rw [localEntries_eq_filter]

end Catalog

/-- Where there is no plan, a read ends at once, for the same reasons. -/
theorem Source.read_of_plan_error {α : Type} {source : Source α} {config : Config}
    {found : Diagnostics} (h : source.plan config = .error found) (pageSize : UInt32)
    (id : ResourceId) : source.read pageSize id config = .done (.error found) := by
  rw [plan_eq_map, Outcomes.map_eq_error] at h
  rw [read, h]

namespace DataSource

/-- A plan asks nothing. Where there is none, the read fails for the same reasons and asks nothing
either. Otherwise the read asks for the pages of the list, from the first on, with the filter of the
plan; the plan names the entries that are not in the filter; and if the read succeeds, then under
the identifier of the plan. -/
theorem plan_previews_read (d : DataSource) (f : Fixture) (pageSize : UInt32) (id : ResourceId)
    (config : Config) :
    f.run false (.done (d.plan config)) = (d.plan config, []) ∧
    (∀ found, d.plan config = .error found →
      f.run false (d.read pageSize id config) = (.error found, [])) ∧
    ∀ plan, d.plan config = .ok plan →
      (∃ count, 0 < count ∧ count < UInt32.size ∧
        (f.run false (d.read pageSize id config)).2 =
          Listing.consecutive d.source.endpoint pageSize plan.filter 1 count) ∧
      (∃ query, Query.ofConfig config = .ok query ∧
        d.source.catalog.Splits query.filters plan.filter plan.localFilters) ∧
      ∀ s, (f.run false (d.read pageSize id config)).1 = .ok s →
        s.identifier = plan.id ∧ s.attributes.get? "id" = some (.string plan.id) := by
  refine ⟨rfl, ?_, ?_⟩
  · intro found hfound
    rw [read, Source.read_of_plan_error hfound]
    rfl
  · intro plan hplan
    rw [DataSource.plan, Source.plan_eq_map, Outcomes.map_eq_ok] at hplan
    obtain ⟨query, hchecked, rfl⟩ := hplan
    obtain ⟨-, hquery, hinorder⟩ := Source.checkedQuery_eq_ok.mp hchecked
    rw [read, Source.run_read hchecked]
    refine ⟨?_, ⟨query, hquery, Catalog.splits_filterDocument _ _ _ _⟩, ?_⟩
    · exact Source.requests_find hinorder (fun _ r => f.respond r) pageSize ⟨0, []⟩
    · intro s hs
      obtain ⟨entities, -, rfl⟩ := Outcomes.map_eq_ok.mp hs
      exact ⟨rfl, Source.get?_id_snapshot d.names_apart.1 _ _ _ _⟩

/-- The read of a plan asks for pages of volumes; that of a configuration without one asks
nothing. -/
theorem plan_previews_read_disks :
    (∃ plan count, DataSource.volumes.plan diskConfig = .ok plan ∧ 0 < count ∧
      ((Fixture.ofEndpoints [("volumes", diskItems)]).run false
          (DataSource.volumes.read 2 ⟨"linode_volumes", "web"⟩ diskConfig)).2 =
        Listing.consecutive "volumes" 2 plan.filter 1 count) ∧
    ∃ found, (Fixture.ofEndpoints [("volumes", diskItems)]).run false
      (DataSource.volumes.read 2 ⟨"linode_volumes", "web"⟩ (labelConfig [.null])) =
        (.error found, []) := by
  constructor
  · have hplanned : (DataSource.volumes.plan diskConfig).toOption.isSome = true := by
      decide +kernel
    obtain ⟨plan, hsome⟩ := Option.isSome_iff_exists.mp hplanned
    have hplan := Outcomes.eq_ok_of_toOption hsome
    obtain ⟨count, hpositive, -, hrequests⟩ :=
      ((plan_previews_read .volumes (.ofEndpoints [("volumes", diskItems)]) 2
        ⟨"linode_volumes", "web"⟩ diskConfig).2.2 plan hplan).1
    exact ⟨plan, count, hplan, hpositive, hrequests⟩
  · have hrefused : (DataSource.volumes.plan (labelConfig [.null])).toOption.isSome = false := by
      decide +kernel
    cases hplan : DataSource.volumes.plan (labelConfig [.null]) with
    | error found =>
      exact ⟨found, (plan_previews_read .volumes (.ofEndpoints [("volumes", diskItems)]) 2
        ⟨"linode_volumes", "web"⟩ (labelConfig [.null])).2.1 found hplan⟩
    | ok plan =>
      rw [hplan] at hrefused
      cases hrefused

end DataSource

end CloudInventory
