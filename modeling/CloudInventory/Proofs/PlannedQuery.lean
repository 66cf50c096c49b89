import CloudInventory.Proofs.Registrations
import CloudInventory.Proofs.ValidConfig
import CloudInventory.Source.Registry

/-!
When there is a plan. A configuration without errors has one unless a null stands among the values
of a filter entry: null belongs to every type at every depth, but it is no text to compare with.
-/
namespace CloudInventory

/-- A null stands among the values of an entry of the filter. -/
def NullAmongValues (config : Config) : Prop :=
  ∃ items block values, config.get? "filter" = some (.list items) ∧ .map block ∈ items ∧
    Dictionary.get? block "values" = some (.list values) ∧ .null ∈ values

/-! ### Filter blocks that spell an entry -/

/-- A permitted block spells an entry if no null stands among its values. -/
theorem Catalog.Permits.exists_spelledBy {α : Type} {catalog : Catalog α} {block : Dictionary Value}
    (h : catalog.Permits block)
    (hnull : ∀ values, block.get? "values" = some (.list values) → .null ∉ values) :
    ∃ entry : Entry, entry.SpelledBy block := by
  obtain ⟨name, hname, -⟩ := h.name
  obtain ⟨items, hitems, hne, hkinds⟩ := h.values
  obtain ⟨m, hm⟩ := h.matchBy
  have hstrings : ∀ item ∈ items, ∃ s, item = .string s := by
    intro item hitem
    refine (hkinds item hitem).resolve_left ?_
    rintro rfl
    exact hnull items hitems hitem
  obtain ⟨texts, rfl⟩ := exists_map_string hstrings
  exact ⟨.of name texts m, hname, ⟨texts, hitems, by simpa using hne, rfl⟩, hm⟩

theorem not_mem_null_of_spelledBy {entry : Entry} {block : Dictionary Value}
    (h : entry.SpelledBy block) {values : List Value}
    (hvalues : block.get? "values" = some (.list values)) : .null ∉ values := by
  obtain ⟨texts, htexts, -⟩ := h.values
  rw [hvalues, Option.some.injEq, Value.list.injEq] at htexts
  rw [htexts]
  simp

namespace Source

variable {α : Type} {source : Source α} {config : Config} {query : Query}

/-! ### Plans -/

/-- What is planned for a query that is in order. -/
def planOf (source : Source α) (query : Query) : Plan where
  id := Entry.fingerprint query.filters
  filter := (source.catalog.filterDocument query.filters query.order query.orderBy).compact
  localFilters := (source.catalog.localEntries query.filters).map Entry.name
  latest := query.latest && source.latestKey.isSome

/-- There is a plan just for what is read: the query that passes all checks. -/
theorem plan_eq_map (source : Source α) (config : Config) :
    source.plan config = (source.checkedQuery config).map source.planOf := by
  rw [plan]
  cases hchecked : source.checkedQuery config with
  | error found => rfl
  | ok query =>
    have hinorder := (checkedQuery_eq_ok.mp hchecked).2.2
    have hfilter : source.catalog.filterText query.filters query.order query.orderBy =
        .ok (source.catalog.filterDocument query.filters query.order query.orderBy).compact :=
      Catalog.filterText_eq_ok (Catalog.checkQuery_ok_iff.mp hinorder).1
    rw [Outcomes.ok_bind, hfilter]
    rfl

theorem exists_plan_iff :
    (∃ plan, source.plan config = .ok plan) ↔ ∃ query, source.checkedQuery config = .ok query := by
  simp only [plan_eq_map, Outcomes.map_eq_ok]
  constructor
  · intro h
    obtain ⟨_, query, hquery, -⟩ := h
    exact ⟨query, hquery⟩
  · intro h
    obtain ⟨query, hquery⟩ := h
    exact ⟨_, query, hquery, rfl⟩

/-- Every entry that a permitted configuration spells stands in a permitted block. -/
theorem Permits.exists_block (h : source.Permits config)
    (hquery : Query.ofConfig config = .ok query) {entry : Entry} (hentry : entry ∈ query.filters) :
    ∃ block, source.catalog.Permits block ∧ entry.SpelledBy block := by
  have hfilters := Query.filtersOf_eq_ok.mp (Query.ofConfig_eq_ok.mp hquery).1
  rcases hfilters with ⟨-, hnone⟩ | ⟨items, hitems, hspelled⟩
  · rw [hnone] at hentry
    cases hentry
  · obtain ⟨item, hitem, block, rfl, hblock⟩ := Entry.exists_item hspelled hentry
    rcases h.filters with habsent | habsent | ⟨others, hothers, hpermits⟩
    · rw [hitems] at habsent
      cases habsent
    · rw [hitems] at habsent
      cases habsent
    · rw [hitems] at hothers
      cases hothers
      obtain ⟨other, heq, hpermitted⟩ := hpermits _ hitem
      cases heq
      exact ⟨block, hpermitted, hblock⟩

/-- What a permitted configuration spells is in order. -/
theorem Permits.checkQuery_ok (h : source.Permits config)
    (hquery : Query.ofConfig config = .ok query) :
    source.catalog.checkQuery query.filters query.orderBy = .ok () := by
  obtain ⟨-, -, horderBy, -⟩ := Query.ofConfig_eq_ok.mp hquery
  refine Catalog.checkQuery_ok_iff.mpr ⟨?_, ?_⟩
  · intro entry hentry
    obtain ⟨block, hpermitted, hblock⟩ := h.exists_block hquery hentry
    obtain ⟨name, hname, hcontains⟩ := hpermitted.name
    have hsame : name = entry.name := by simpa [hblock.name] using hname.symm
    rw [← hsame]
    exact hcontains
  · obtain ⟨orderBy, hgiven, hremote⟩ := h.orderBy
    rw [horderBy, Except.ok.injEq] at hgiven
    rw [hgiven]
    exact hremote

/-- A permitted configuration without null among its values spells a query. -/
theorem Permits.exists_query (h : source.Permits config) (hnull : ¬ NullAmongValues config) :
    ∃ query, Query.ofConfig config = .ok query := by
  have hfilters : ∃ entries, Query.filtersOf (config.get? "filter") = .ok entries := by
    rcases h.filters with hgiven | hgiven | ⟨items, hgiven, hitems⟩
    · exact ⟨[], by rw [hgiven]; rfl⟩
    · exact ⟨[], by rw [hgiven]; rfl⟩
    · have hspelled : ∀ item ∈ items, ∃ entry, Entry.SpelledIn item entry := by
        intro item hitem
        obtain ⟨block, rfl, hpermitted⟩ := hitems item hitem
        obtain ⟨entry, hentry⟩ := hpermitted.exists_spelledBy (fun values hvalues hmem =>
          hnull ⟨items, block, values, hgiven, hitem, hvalues, hmem⟩)
        exact ⟨entry, block, rfl, hentry⟩
      obtain ⟨entries, hentries⟩ := Entry.exists_entries hspelled
      exact ⟨entries, Query.filtersOf_eq_ok.mpr (.inr ⟨items, hgiven, hentries⟩)⟩
  obtain ⟨entries, hentries⟩ := hfilters
  obtain ⟨order, horder⟩ := h.order
  obtain ⟨orderBy, horderBy, -⟩ := h.orderBy
  obtain ⟨latest, hlatest⟩ := h.latest
  exact ⟨⟨entries, order, orderBy, latest⟩,
    Query.ofConfig_eq_ok.mpr ⟨hentries, horder, horderBy, hlatest⟩⟩

/-- A configuration with a null among its values spells no query. -/
theorem not_nullAmongValues (hquery : Query.ofConfig config = .ok query) :
    ¬ NullAmongValues config := by
  intro h
  obtain ⟨items, block, values, hitems, hblock, hvalues, hnull⟩ := h
  have hfilters := Query.filtersOf_eq_ok.mp (Query.ofConfig_eq_ok.mp hquery).1
  rcases hfilters with ⟨habsent, -⟩ | ⟨others, hothers, hspelled⟩
  · rw [hitems] at habsent
    simp at habsent
  · rw [hitems] at hothers
    cases hothers
    obtain ⟨entry, -, other, heq, hentry⟩ := Entry.exists_entry hspelled hblock
    cases heq
    exact not_mem_null_of_spelledBy hentry hvalues hnull

/-- Of a permitted configuration that passes validation, all that planning can refuse is a null
among the values of an entry. -/
theorem Permits.exists_plan_iff (h : source.Permits config)
    (hvalid : (source.validate config).hasError = false) :
    (∃ plan, source.plan config = .ok plan) ↔ ¬ NullAmongValues config := by
  rw [Source.exists_plan_iff]
  constructor
  · intro hplan
    obtain ⟨query, hchecked⟩ := hplan
    exact not_nullAmongValues (checkedQuery_eq_ok.mp hchecked).2.1
  · intro hnull
    obtain ⟨query, hquery⟩ := h.exists_query hnull
    exact ⟨query, checkedQuery_eq_ok.mpr ⟨hvalid, hquery, h.checkQuery_ok hquery⟩⟩

end Source

namespace DataSource

theorem permits_of_valid (d : DataSource) {config : Config}
    (hvalid : (d.validate config).hasError = false) : d.source.Permits config := by
  have hnames : d.source.results ≠ "filter" ∧ d.source.results ≠ "latest" := by
    cases d <;> decide
  have hordered : d.source.catalog.fields.Ordered := by
    cases d <;> exact Catalog.ordered_ofList _
  exact Source.permits_of_valid hnames.1 hnames.2 hordered hvalid

/-- A configuration without errors has a plan just when no null stands among the values of its
filter. -/
theorem plan_ok_iff_no_null (d : DataSource) {config : Config}
    (hvalid : (d.validate config).hasError = false) :
    (∃ plan, d.plan config = .ok plan) ↔ ¬ NullAmongValues config :=
  (d.permits_of_valid hvalid).exists_plan_iff hvalid

/-- Asks for the elements with one of some labels. -/
def labelConfig (labels : List Value) : Config :=
  [("filter", .list [.map [("name", .string "label"), ("values", .list labels)]])]

theorem plan_of_labels :
    (∃ plan, DataSource.volumes.plan (labelConfig [.string "a\"b", .string "web"]) = .ok plan) ∧
      ¬ ∃ plan, DataSource.volumes.plan (labelConfig [.string "web", .null]) = .ok plan := by
  constructor
  · refine (plan_ok_iff_no_null .volumes (by decide +kernel)).mpr ?_
    intro h
    obtain ⟨items, block, values, hitems, hblock, hvalues, hnull⟩ := h
    cases hitems
    cases List.mem_singleton.mp hblock
    cases hvalues
    simp at hnull
  · rw [plan_ok_iff_no_null .volumes (by decide +kernel), not_not]
    exact ⟨_, _, _, rfl, List.mem_singleton_self _, rfl, by simp⟩

/-- Not everything that validation accepts has a plan. -/
theorem validation_accepts_null_value :
    ¬ ∀ (d : DataSource) (config : Config), (d.validate config).hasError = false →
      ∃ plan, d.plan config = .ok plan := by
  intro h
  obtain ⟨plan, hplan⟩ := h .volumes (labelConfig [.string "web", .null]) (by decide +kernel)
  have hnone : (DataSource.volumes.plan (labelConfig [.string "web", .null])).toOption = none := by
    decide +kernel
  rw [hplan] at hnone
  cases hnone

end DataSource

end CloudInventory
