import CloudInventory.Proofs.CheckedConfig
import CloudInventory.Proofs.FixturePages
import CloudInventory.Proofs.FixtureSelection
import CloudInventory.Proofs.MostRecent
import CloudInventory.Proofs.UncancelledRead
import CloudInventory.Source.Registry

/-!
What a read of a fixture comes to, from the items of the endpoint to the attributes of the result.
-/
namespace CloudInventory

namespace Source

variable {α : Type}

/-! ### What is meant -/

/-- The items that the vendor selects for a query, in its order. -/
def selected (source : Source α) (query : Query) (items : List Json) : List Json :=
  source.catalog.selection query.filters query.order query.orderBy items

/-- The entities among the selected items that satisfy the entries left to the read. -/
def kept (source : Source α) (query : Query) (items : List Json) : List α :=
  source.catalog.satisfying query.filters
    ((source.selected query items).filterMap (fun item => (source.reader item).toOption))

/-- What a query needs of the items of its endpoint in order to have a result. -/
structure Answers (source : Source α) (query : Query) (items : List Json) : Prop where
  decodes : ∀ item ∈ source.selected query items, ∃ entity, source.reader item = .ok entity
  compiles : ∀ entry ∈ query.filters, entry.Compiles
  readable : query.latest = true → ∀ key ∈ source.latestKey, ∀ entity ∈ source.kept query items,
    key.Readable entity

/-- The entities that a query finds: those kept, or the most recent of them. -/
def Finds (source : Source α) (query : Query) (items : List Json) (found : List α) : Prop :=
  if query.latest then
    ∃ key ∈ source.latestKey, ∃ chosen, key.IsMostRecent (source.kept query items) chosen ∧
      found = chosen.toList
  else found = source.kept query items

/-- The result of a query on the items of its endpoint. -/
structure Concludes (source : Source α) (id : ResourceId) (config : Config) (query : Query)
    (items : List Json) (s : Snapshot) : Prop where
  resource : s.id = id
  identifier : s.identifier = Entry.fingerprint query.filters
  idAttribute : s.attributes.get? "id" = some (.string (Entry.fingerprint query.filters))
  rows : ∃ found, source.Finds query items found ∧
    s.attributes.get? source.results = some (.list (found.map source.row))
  others : ∀ name, name ≠ "id" → name ≠ source.results →
    s.attributes.get? name = config.get? name

/-! ### What is found -/

/-- The outcome of a query on a fixture, without any request. -/
def outcome (source : Source α) (f : Fixture) (query : Query) : Except FilterError (List α) :=
  match f.endpoints.get? source.endpoint with
  | none => .error (.list (ApiError.unknownEndpoint source.endpoint).message)
  | some items => do
    let entities ← (Reader.items source.reader (source.selected query items)).mapError
      (fun misfit => .list (ApiError.decode (.element source.endpoint misfit)).message)
    let _ ← source.catalog.compileEntries (source.catalog.localEntries query.filters)
    Catalog.narrow query.latest source.latestKey
      (source.catalog.satisfying query.filters entities)

variable {source : Source α} {f : Fixture} {query : Query}

theorem list_fixture (query : Query) (hreserved : source.catalog.get? "+or" = none)
    (hsmall : ∀ items ∈ f.endpoints.get? source.endpoint, items.length < UInt32.size)
    (pageSize : UInt32) (trace : Interaction.Trace Request) :
    ((source.list pageSize
        (source.catalog.filterDocument query.filters query.order query.orderBy).compact).runFrom
        (fun _ r => f.respond r) (fun _ => false) trace).1 =
      match f.endpoints.get? source.endpoint with
      | none => .error (ApiError.unknownEndpoint source.endpoint).message
      | some items => (Reader.items source.reader (source.selected query items)).mapError
          (fun misfit => (ApiError.decode (.element source.endpoint misfit)).message) := by
  rw [Source.list, Interaction.runFrom_map]
  cases hendpoint : f.endpoints.get? source.endpoint with
  | none =>
    have hselected : ∀ page, f.selected ⟨source.endpoint, page, pageSize, some
        (source.catalog.filterDocument query.filters query.order query.orderBy).compact⟩ =
          .error (.unknownEndpoint source.endpoint) := by
      intro page
      simp only [Fixture.selected, hendpoint]
    rw [Fixture.all_fixture_error hselected]
    rfl
  | some items =>
    have hselected : ∀ page, f.selected ⟨source.endpoint, page, pageSize, some
        (source.catalog.filterDocument query.filters query.order query.orderBy).compact⟩ =
          .ok (source.selected query items) := by
      intro page
      simp only [Fixture.selected, hendpoint]
      exact Fixture.select_filterDocument hreserved _ _ _ items
    have hlength : (source.selected query items).length < UInt32.size :=
      Nat.lt_of_le_of_lt (Fixture.length_selection_le _ _ _ _ items) (hsmall items hendpoint)
    rw [Fixture.all_fixture hselected hlength]
    dsimp only
    cases Reader.items source.reader (source.selected query items) <;> rfl

/-- A query that is in order is concluded on what its filter brings. -/
theorem find_uncancelled
    (hchecked : source.catalog.checkQuery query.filters query.orderBy = .ok ())
    (f : Fixture) (pageSize : UInt32) :
    (f.run false (source.find pageSize query)).1 =
      source.catalog.concluded query source.latestKey
        ((source.list pageSize
          (source.catalog.filterDocument query.filters query.order query.orderBy).compact).runFrom
          (fun _ r => f.respond r) (fun _ => false) ⟨1, []⟩).1 :=
  Catalog.readQuery_uncancelled (Catalog.checkedFilter_eq_ok hchecked) source.latestKey ⟨0, []⟩

/-- Whatever the size of the pages, a query that is in order comes to its outcome. -/
theorem find_fixture (hchecked : source.catalog.checkQuery query.filters query.orderBy = .ok ())
    (hreserved : source.catalog.get? "+or" = none)
    (hsmall : ∀ items ∈ f.endpoints.get? source.endpoint, items.length < UInt32.size)
    (pageSize : UInt32) :
    (f.run false (source.find pageSize query)).1 = source.outcome f query := by
  rw [find_uncancelled hchecked, list_fixture query hreserved hsmall, outcome, Catalog.concluded]
  cases f.endpoints.get? source.endpoint with
  | none => rfl
  | some items =>
    dsimp only
    cases Reader.items source.reader (source.selected query items) <;> rfl

theorem outcome_eq_ok {found : List α} :
    source.outcome f query = .ok found ↔
      ∃ items, f.endpoints.get? source.endpoint = some items ∧
        (∀ item ∈ source.selected query items, ∃ entity, source.reader item = .ok entity) ∧
        (∃ ps, source.catalog.compileEntries (source.catalog.localEntries query.filters) = .ok ps) ∧
        Catalog.narrow query.latest source.latestKey (source.kept query items) = .ok found := by
  unfold outcome
  cases f.endpoints.get? source.endpoint with
  | none => simp
  | some items =>
    simp only [Outcomes.bind_eq_ok, Outcomes.mapError_eq_ok, Reader.items_eq_ok,
      Option.some.injEq, exists_eq_left']
    constructor
    · intro h
      obtain ⟨entities, ⟨hdecodes, rfl⟩, ps, hps, hnarrow⟩ := h
      exact ⟨hdecodes, ⟨ps, hps⟩, hnarrow⟩
    · intro h
      obtain ⟨hdecodes, ⟨ps, hps⟩, hnarrow⟩ := h
      exact ⟨_, ⟨hdecodes, rfl⟩, ps, hps, hnarrow⟩

/-- There is an outcome just when the fixture has the endpoint and its items answer the query. -/
theorem outcome_ok_iff
    (hnames : ∀ entry ∈ query.filters, source.catalog.contains entry.name = true) :
    (∃ found, source.outcome f query = .ok found) ↔
      ∃ items, f.endpoints.get? source.endpoint = some items ∧ source.Answers query items := by
  simp only [outcome_eq_ok, Catalog.compileEntries_localEntries_ok_iff hnames]
  constructor
  · intro h
    obtain ⟨found, items, hitems, hdecodes, hcompiles, hnarrow⟩ := h
    exact ⟨items, hitems, hdecodes, hcompiles, Catalog.narrow_ok_iff.mp ⟨found, hnarrow⟩⟩
  · intro h
    obtain ⟨items, hitems, hanswers⟩ := h
    obtain ⟨found, hnarrow⟩ := Catalog.narrow_ok_iff.mpr hanswers.readable
    exact ⟨found, items, hitems, hanswers.decodes, hanswers.compiles, hnarrow⟩

theorem finds_of_outcome {items : List Json} {found : List α}
    (hlatest : query.latest = true → ∃ key, source.latestKey = some key)
    (hitems : f.endpoints.get? source.endpoint = some items)
    (h : source.outcome f query = .ok found) : source.Finds query items found := by
  obtain ⟨items', hitems', -, -, hnarrow⟩ := outcome_eq_ok.mp h
  rw [hitems, Option.some.injEq] at hitems'
  subst hitems'
  exact Catalog.isMostRecent_of_narrow hlatest hnarrow

/-! ### What is returned -/

/-- A read carries out the query of its configuration. -/
theorem run_read {config : Config} (hchecked : source.checkedQuery config = .ok query)
    (f : Fixture) (cancelled : Bool) (pageSize : UInt32) (id : ResourceId) :
    f.run cancelled (source.read pageSize id config) =
      ((diagnosed (f.run cancelled (source.find pageSize query)).1).map
        (source.snapshot id config (Entry.fingerprint query.filters)),
        (f.run cancelled (source.find pageSize query)).2) := by
  rw [read, hchecked]
  simp only [Fixture.run, Interaction.run, Interaction.runFrom_map]

/-- A read returns the configuration with the outcome of its query. -/
theorem read_fixture_eq {config : Config} (hchecked : source.checkedQuery config = .ok query)
    (hreserved : source.catalog.get? "+or" = none)
    (hsmall : ∀ items ∈ f.endpoints.get? source.endpoint, items.length < UInt32.size)
    (pageSize : UInt32) (id : ResourceId) :
    (f.run false (source.read pageSize id config)).1 = (diagnosed (source.outcome f query)).map
      (source.snapshot id config (Entry.fingerprint query.filters)) := by
  rw [run_read hchecked, find_fixture (checkedQuery_eq_ok.mp hchecked).2.2 hreserved hsmall]

theorem get?_id_snapshot (hresults : source.results ≠ "id") (id : ResourceId) (config : Config)
    (identifier : String) (entities : List α) :
    (source.snapshot id config identifier entities).attributes.get? "id" =
      some (.string identifier) := by
  rw [snapshot, Dictionary.get?_insert_of_ne hresults.symm, Dictionary.get?_insert_self]

theorem get?_results_snapshot (id : ResourceId) (config : Config) (identifier : String)
    (entities : List α) :
    (source.snapshot id config identifier entities).attributes.get? source.results =
      some (.list (entities.map source.row)) :=
  Dictionary.get?_insert_self _ _ _

theorem concludes_snapshot {id : ResourceId} {config : Config} {items : List Json}
    {found : List α} (hresults : source.results ≠ "id") (hfound : source.Finds query items found) :
    source.Concludes id config query items
      (source.snapshot id config (Entry.fingerprint query.filters) found) where
  resource := rfl
  identifier := rfl
  idAttribute := get?_id_snapshot hresults _ _ _ _
  rows := ⟨found, hfound, get?_results_snapshot _ _ _ _⟩
  others := by
    intro name hid hrows
    rw [snapshot, Dictionary.get?_insert_of_ne hrows, Dictionary.get?_insert_of_ne hid]

end Source

namespace DataSource

/-- No data source names its result, or a field, like something that has a meaning of its own. -/
theorem names_apart (d : DataSource) :
    d.source.results ≠ "id" ∧ d.source.results ≠ "latest" ∧ d.source.catalog.get? "+or" = none := by
  cases d <;> exact ⟨by decide, by decide, rfl⟩

/-- For a configuration that has a plan, a read of a fixture that is not cancelled succeeds just
when the fixture has the endpoint and its items answer the query; then it concludes the query on
them. The size of the pages makes no difference. -/
theorem read_fixture (d : DataSource) (f : Fixture) {config : Config} {plan : Plan}
    (hplan : d.plan config = .ok plan)
    (hsmall : ∀ items ∈ f.endpoints.get? d.source.endpoint, items.length < UInt32.size)
    (id : ResourceId) :
    ∃ query, Query.ofConfig config = .ok query ∧ ∀ pageSize,
      ((∃ s, (f.run false (d.read pageSize id config)).1 = .ok s) ↔
        ∃ items, f.endpoints.get? d.source.endpoint = some items ∧
          d.source.Answers query items) ∧
      (∀ s items, (f.run false (d.read pageSize id config)).1 = .ok s →
        f.endpoints.get? d.source.endpoint = some items →
          d.source.Concludes id config query items s) ∧
      ∀ other, (f.run false (d.read other id config)).1 =
        (f.run false (d.read pageSize id config)).1 := by
  obtain ⟨hid, hlatest, hreserved⟩ := d.names_apart
  obtain ⟨query, hchecked⟩ := Source.checkedQuery_of_plan hplan
  obtain ⟨-, hquery, hinorder⟩ := Source.checkedQuery_eq_ok.mp hchecked
  have hnames := (Catalog.checkQuery_ok_iff.mp hinorder).1
  have hread : ∀ pageSize, (f.run false (d.read pageSize id config)).1 =
      (Source.diagnosed (d.source.outcome f query)).map
        (d.source.snapshot id config (Entry.fingerprint query.filters)) := fun pageSize =>
    Source.read_fixture_eq hchecked hreserved hsmall pageSize id
  refine ⟨query, hquery, fun pageSize => ⟨?_, ?_, ?_⟩⟩
  · rw [← Source.outcome_ok_iff hnames]
    simp only [hread, Outcomes.map_eq_ok, Source.diagnosed_eq_ok]
    constructor
    · intro h
      obtain ⟨s, found, hfound, -⟩ := h
      exact ⟨found, hfound⟩
    · intro h
      obtain ⟨found, hfound⟩ := h
      exact ⟨_, found, hfound, rfl⟩
  · intro s items hs hitems
    rw [hread, Outcomes.map_eq_ok] at hs
    obtain ⟨found, hfound, rfl⟩ := hs
    have houtcome := Source.diagnosed_eq_ok.mp hfound
    exact Source.concludes_snapshot hid
      (Source.finds_of_outcome (Source.latestKey_of_latest hlatest hchecked) hitems houtcome)
  · intro other
    rw [hread, hread]

/-- A volume as the vendor describes it. -/
def diskItem (id : Int) (label : String) (tags : List String) : Json :=
  .object [("created", .string "2024-01-01T00:00:00"), ("id", .int id), ("label", .string label),
    ("region", .string "eu"), ("size", .int 20), ("status", .string "active"),
    ("tags", .array (tags.map .string))]

def diskItems : List Json :=
  [diskItem 1 "data" ["web"], diskItem 2 "logs" ["web"], diskItem 3 "data" [],
    diskItem 4 "raw" ["db", "web"]]

/-- Asks for the volumes with a tag, which the vendor filters, and with a letter in their label,
which it does not. -/
def diskConfig : Config := [("filter", .list [
  .map [("name", .string "tags"), ("values", .list [.string "web"])],
  .map [("match_by", .string "sub"), ("name", .string "label"), ("values", .list [.string "a"])]])]

theorem read_fixture_disks :
    ∃ s, ((Fixture.ofEndpoints [("volumes", diskItems)]).run false
        (DataSource.volumes.read 3 ⟨"linode_volumes", "web"⟩ diskConfig)).1 = .ok s ∧
      ∃ found : List Volume, found.map Volume.id = [1, 4] ∧
        s.attributes.get? "volumes" = some (.list (found.map Volume.row)) := by
  have hplanned : (DataSource.volumes.plan diskConfig).toOption.isSome = true := by decide +kernel
  obtain ⟨plan, hplan⟩ : ∃ plan, DataSource.volumes.plan diskConfig = .ok plan := by
    cases h : DataSource.volumes.plan diskConfig with
    | ok plan => exact ⟨plan, rfl⟩
    | error found =>
      rw [h] at hplanned
      cases hplanned
  obtain ⟨query, hquery, hread⟩ := read_fixture .volumes
    (.ofEndpoints [("volumes", diskItems)]) hplan (by decide) ⟨"linode_volumes", "web"⟩
  have hspelled : Query.ofConfig diskConfig =
      .ok ⟨[⟨"tags", ["web"], .exact⟩, ⟨"label", ["a"], .substring⟩], none, none, false⟩ := rfl
  rw [hspelled, Except.ok.injEq] at hquery
  subst hquery
  obtain ⟨hok, hconcludes, -⟩ := hread 3
  obtain ⟨s, hs⟩ := hok.mpr ⟨diskItems, rfl, {
    decodes := by
      intro item hitem
      have hselected : item ∈ [diskItem 1 "data" ["web"], diskItem 2 "logs" ["web"],
        diskItem 4 "raw" ["db", "web"]] := hitem
      simp only [List.mem_cons, List.not_mem_nil, or_false] at hselected
      rcases hselected with rfl | rfl | rfl <;> exact ⟨_, rfl⟩
    compiles := by
      intro entry hentry hregex
      simp only [List.mem_cons, List.not_mem_nil, or_false] at hentry
      rcases hentry with rfl | rfl <;> cases hregex
    readable := nofun }⟩
  obtain ⟨found, rfl, hrows⟩ := (hconcludes s diskItems hs rfl).rows
  exact ⟨s, hs, _, by decide, hrows⟩

end DataSource

end CloudInventory
