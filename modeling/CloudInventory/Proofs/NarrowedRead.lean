import CloudInventory.Proofs.FixtureRead
import CloudInventory.Proofs.ShownFields
import CloudInventory.Proofs.ValidConfig

/-!
What one more filter entry does to a read, if the read evaluates it itself: of the rows that there
were before, those stay, in order, that show what the entry asks for.
-/
namespace CloudInventory

theorem forall_mem_among {α : Type} {P : α → Prop} {a : α} {before after : List α} :
    (∀ x ∈ before ++ a :: after, P x) ↔ P a ∧ ∀ x ∈ before ++ after, P x := by
  rw [List.forall_mem_append, List.forall_mem_cons, List.forall_mem_append, and_left_comm]

/-! ### Entries that are not sent -/

namespace Catalog

variable {α : Type} {catalog : Catalog α} {entry : Entry}

/-- The vendor is not told of an entry that the read evaluates. -/
theorem filterDocument_of_local (hlocal : catalog.isRemoteEntry entry = false)
    (before after : List Entry) (order : Option Order) (orderBy : Option String) :
    catalog.filterDocument (before ++ entry :: after) order orderBy =
      catalog.filterDocument (before ++ after) order orderBy := by
  have hclauses : catalog.clauses (before ++ entry :: after) =
      catalog.clauses (before ++ after) := by
    simp [clauses, hlocal]
  rw [filterDocument, filterDocument, hclauses]

theorem satisfying_of_local (hlocal : catalog.isRemoteEntry entry = false)
    (before after : List Entry) (entities : List α) :
    catalog.satisfying (before ++ entry :: after) entities =
      (catalog.satisfying (before ++ after) entities).filter
        (fun a => entry.Satisfied catalog a) := by
  have hwith : catalog.localEntries (before ++ entry :: after) =
      catalog.localEntries before ++ entry :: catalog.localEntries after := by
    simp [localEntries, hlocal]
  have hwithout : catalog.localEntries (before ++ after) =
      catalog.localEntries before ++ catalog.localEntries after := List.filter_append ..
  rw [satisfying, satisfying, List.filter_filter, hwith, hwithout]
  refine List.filter_congr (fun a _ => ?_)
  rw [← Bool.decide_and, decide_eq_decide, forall_mem_among]

/-- Of what was found before, a further entry leaves what satisfies it. -/
theorem concluded_of_local (hlocal : catalog.isRemoteEntry entry = false)
    (hcompiles : entry.Compiles) {before after : List Entry}
    (hnames : ∀ e ∈ before ++ entry :: after, catalog.contains e.name = true)
    {order : Option Order} {orderBy : Option String} {key : Option (LatestKey α)}
    {listed : Except String (List α)} {found : List α}
    (h : catalog.concluded ⟨before ++ after, order, orderBy, false⟩ key listed = .ok found) :
    catalog.concluded ⟨before ++ entry :: after, order, orderBy, false⟩ key listed =
      .ok (found.filter (fun a => entry.Satisfied catalog a)) := by
  have hkept : ∀ entities : List α, narrow false key entities = .ok entities := by
    intro entities
    cases key <;> rfl
  simp only [concluded, Outcomes.bind_eq_ok, hkept] at h ⊢
  obtain ⟨entities, hlisted, ps, hps, ⟨⟩⟩ := h
  have hothers := (compileEntries_localEntries_ok_iff (forall_mem_among.mp hnames).2).mp ⟨ps, hps⟩
  obtain ⟨qs, hqs⟩ := (compileEntries_localEntries_ok_iff hnames).mpr
    (forall_mem_among.mpr ⟨hcompiles, hothers⟩)
  exact ⟨entities, hlisted, qs, hqs, by rw [satisfying_of_local hlocal]⟩

end Catalog

/-! ### Configurations with one more filter block -/

/-- The filter blocks of a configuration. -/
def Config.filterItems (config : Config) : List Value :=
  match config.get? "filter" with
  | some (.list items) => items
  | _ => []

/-- A configuration with other filter blocks. -/
def Config.withFilter (config : Config) (items : List Value) : Config :=
  config.insert "filter" (.list items)

namespace Query

variable {config : Config} {query : Query}

theorem filtersOf_filterItems (h : filtersOf (config.get? "filter") = .ok query.filters) :
    List.Forall₂ Entry.SpelledIn config.filterItems query.filters := by
  unfold Config.filterItems
  rcases filtersOf_eq_ok.mp h with ⟨hgiven | hgiven, hnone⟩ | ⟨items, hgiven, hspelled⟩
  · rw [hgiven, hnone]
    exact .nil
  · rw [hgiven, hnone]
    exact .nil
  · rw [hgiven]
    exact hspelled

theorem latest_of_ne (h : ofConfig config = .ok query)
    (hlatest : config.get? "latest" ≠ some (.bool true)) : query.latest = false := by
  obtain ⟨-, -, -, hgiven⟩ := ofConfig_eq_ok.mp h
  unfold latestOf at hgiven
  split at hgiven
  · exact (Except.ok.inj hgiven).symm
  · exact (Except.ok.inj hgiven).symm
  · rename_i b hb
    rw [← Except.ok.inj hgiven]
    exact Bool.eq_false_iff.mpr (fun htrue => hlatest (htrue ▸ hb))
  · cases hgiven

/-- With one more block in it, a filter spells one more entry, in the same place. -/
theorem ofConfig_withFilter (h : ofConfig config = .ok query) {before after : List Value}
    (hitems : config.filterItems = before ++ after) {item : Value} {entry : Entry}
    (hspelled : Entry.SpelledIn item entry) :
    ∃ first rest, query.filters = first ++ rest ∧
      ofConfig (config.withFilter (before ++ item :: after)) =
        .ok { query with filters := first ++ entry :: rest } := by
  obtain ⟨hfilters, horder, horderBy, hlatest⟩ := ofConfig_eq_ok.mp h
  have hall := (hitems ▸ filtersOf_filterItems hfilters).flip
  have hbefore := List.forall₂_take_append _ _ _ hall
  have hafter := List.forall₂_drop_append _ _ _ hall
  refine ⟨_, _, (List.take_append_drop before.length query.filters).symm, ?_⟩
  have hadded := List.rel_append hbefore.flip (.cons hspelled hafter.flip)
  refine ofConfig_eq_ok.mpr ⟨filtersOf_eq_ok.mpr (.inr ⟨_, ?_, hadded⟩), ?_, ?_, ?_⟩
  · exact Dictionary.get?_insert_self _ _ _
  all_goals rwa [Config.withFilter, Dictionary.get?_insert_of_ne (by decide)]

end Query

/-! ### Reads -/

namespace Source

variable {α : Type} {source : Source α} {config : Config} {query : Query}

/-- Where the blocks of a filter stand makes no difference to whether they are in order. -/
theorem valid_of_perm {items other : List Value} (hperm : items.Perm other)
    (h : (source.validate (config.withFilter items)).hasError = false) :
    (source.validate (config.withFilter other)).hasError = false := by
  have hothers : ∀ name, name ≠ "filter" →
      (config.withFilter items).get? name = (config.withFilter other).get? name := by
    intro name hname
    rw [Config.withFilter, Config.withFilter, Dictionary.get?_insert_of_ne hname,
      Dictionary.get?_insert_of_ne hname]
  have hfilter : ∀ items, (config.withFilter items).get? "filter" = some (.list items) :=
    fun items => Dictionary.get?_insert_self _ _ _
  obtain ⟨hkeys, hattributes, hblocks⟩ :=
    contentFindings_eq_nil.mp (Schema.hasError_validate_iff.mp h)
  refine Schema.hasError_validate_iff.mpr (contentFindings_eq_nil.mpr ⟨?_, ?_, ?_⟩)
  · intro key hkey
    exact hkeys key (Dictionary.mem_keys_insert.mpr (Dictionary.mem_keys_insert.mp hkey))
  · intro p hp
    have hname : p.1 ≠ "filter" := by
      rcases mem_attributes hp with rfl | rfl | rfl | rfl <;> simp
    exact hothers p.1 hname ▸ hattributes p hp
  · intro p hp
    by_cases hname : p.1 = "filter"
    · have hfound := hblocks p hp
      rw [hname, hfilter, blockFindings_eq_nil] at hfound ⊢
      obtain hnone | hnull | ⟨_, ⟨⟩, hcomputed, haccepted⟩ := hfound
      · cases hnone
      · cases hnull
      · refine .inr (.inr ⟨other, rfl, fun h => ?_, fun item hitem => ?_⟩)
        · exact (hcomputed h ▸ hperm).nil_eq.symm
        · exact haccepted item (hperm.mem_iff.mpr hitem)
    · exact hothers p.1 hname ▸ hblocks p hp

/-- A block that a configuration may be given in one place of its filter may be given in any. -/
theorem checkedQuery_withFilter (hchecked : source.checkedQuery config = .ok query)
    {first rest : List Value} (hadded : config.filterItems = first ++ rest) {item : Value}
    {other : Query} (hother : source.checkedQuery (config.withFilter (first ++ item :: rest)) =
      .ok other) {entry : Entry} (hspelled : Entry.SpelledIn item entry)
    {before after : List Value} (hplace : config.filterItems = before ++ after) :
    ∃ entries others, query.filters = entries ++ others ∧
      (∀ e ∈ entries ++ entry :: others, source.catalog.contains e.name = true) ∧
      source.checkedQuery (config.withFilter (before ++ item :: after)) =
        .ok { query with filters := entries ++ entry :: others } := by
  obtain ⟨-, hquery, hinorder⟩ := checkedQuery_eq_ok.mp hchecked
  obtain ⟨hvalid, hspells, hotherInorder⟩ := checkedQuery_eq_ok.mp hother
  obtain ⟨entries, others, hfilters, hwith⟩ := Query.ofConfig_withFilter hquery hplace hspelled
  obtain ⟨hnames, horderBy⟩ := Catalog.checkQuery_ok_iff.mp hinorder
  have hname : source.catalog.contains entry.name = true := by
    obtain ⟨_, _, -, hadd⟩ := Query.ofConfig_withFilter hquery hadded hspelled
    cases hspells.symm.trans hadd
    exact (forall_mem_among.mp (Catalog.checkQuery_ok_iff.mp hotherInorder).1).1
  rw [hfilters] at hnames
  have hall : ∀ e ∈ entries ++ entry :: others, source.catalog.contains e.name = true :=
    forall_mem_among.mpr ⟨hname, hnames⟩
  have hperm : (first ++ item :: rest).Perm (before ++ item :: after) := by
    refine List.perm_middle.trans (.trans ?_ List.perm_middle.symm)
    rw [← hadded, ← hplace]
  exact ⟨entries, others, hfilters, hall, checkedQuery_eq_ok.mpr
    ⟨valid_of_perm hperm hvalid, hwith, Catalog.checkQuery_ok_iff.mpr ⟨hall, horderBy⟩⟩⟩

theorem checkedQuery_of_read {f : Fixture} {cancelled : Bool} {pageSize : UInt32}
    {id : ResourceId} {s : Snapshot}
    (h : (f.run cancelled (source.read pageSize id config)).1 = .ok s) :
    ∃ query, source.checkedQuery config = .ok query := by
  unfold read at h
  split at h
  · cases h
  · exact ⟨_, ‹_›⟩

/-- With a further entry that the vendor is not told of, a query finds what satisfies it of all
that it finds without. -/
theorem find_of_local {entry : Entry} (hlocal : source.catalog.isRemoteEntry entry = false)
    (hcompiles : entry.Compiles) {before after : List Entry}
    (hnames : ∀ e ∈ before ++ entry :: after, source.catalog.contains e.name = true)
    (hfilters : query.filters = before ++ after) (hlatest : query.latest = false)
    (hinorder : source.catalog.checkQuery query.filters query.orderBy = .ok ()) {f : Fixture}
    {pageSize : UInt32} {found : List α}
    (h : (f.run false (source.find pageSize query)).1 = .ok found) :
    (f.run false (source.find pageSize
      { query with filters := before ++ entry :: after })).1 =
        .ok (found.filter (fun a => entry.Satisfied source.catalog a)) := by
  obtain ⟨filters, order, orderBy, latest⟩ := query
  cases hfilters
  cases hlatest
  have hwith : source.catalog.checkQuery (before ++ entry :: after) orderBy = .ok () :=
    Catalog.checkQuery_ok_iff.mpr ⟨hnames, (Catalog.checkQuery_ok_iff.mp hinorder).2⟩
  -- both queries send the same filter, so both conclude on the same list
  rw [find_uncancelled hinorder] at h
  rw [find_uncancelled hwith, Catalog.filterDocument_of_local hlocal]
  exact Catalog.concluded_of_local hlocal hcompiles hnames h

end Source

namespace DataSource

/-- Where a configuration that is read successfully may be given one more filter block, of an entry
that the read evaluates itself on something that the result displays, it is read successfully with
that block in any place, and of its rows those stay, in order, which show what the entry asks for.
The most recent element must not be asked for. -/
theorem read_narrowed_by_shown (d : DataSource) (f : Fixture) (pageSize : UInt32) (id : ResourceId)
    {config : Config} (hlatest : config.get? "latest" ≠ some (.bool true)) {s : Snapshot}
    (hread : (f.run false (d.read pageSize id config)).1 = .ok s) {block : Dictionary Value}
    {entry : Entry} (hspelled : entry.SpelledBy block) {first rest : List Value}
    (hadded : config.filterItems = first ++ rest) {plan : Plan}
    (hplan : d.plan (config.withFilter (first ++ .map block :: rest)) = .ok plan)
    (hlocal : d.source.catalog.isRemoteEntry entry = false) (hcompiles : entry.Compiles)
    (hshown : entry.name ∈ Dictionary.keys d.source.block.attributes)
    {before after : List Value} (hplace : config.filterItems = before ++ after) :
    ∃ s' rows,
      (f.run false (d.read pageSize id (config.withFilter (before ++ .map block :: after)))).1 =
        .ok s' ∧
      s.attributes.get? d.source.results = some (.list rows) ∧
      s'.attributes.get? d.source.results =
        some (.list (rows.filter (fun row => entry.MatchesShown row))) := by
  obtain ⟨query, hchecked⟩ := Source.checkedQuery_of_read hread
  obtain ⟨other, hother⟩ := Source.checkedQuery_of_plan hplan
  obtain ⟨entries, others, hfilters, hnames, hwith⟩ :=
    Source.checkedQuery_withFilter hchecked hadded hother ⟨block, rfl, hspelled⟩ hplace
  obtain ⟨-, hquery, hinorder⟩ := Source.checkedQuery_eq_ok.mp hchecked
  have hnotLatest := Query.latest_of_ne hquery hlatest
  rw [read, Source.run_read hchecked, Outcomes.map_eq_ok] at hread
  obtain ⟨found, hfound, rfl⟩ := hread
  have hnarrowed := Source.find_of_local hlocal hcompiles hnames hfilters hnotLatest hinorder
    (Source.diagnosed_eq_ok.mp hfound)
  rw [read, Source.run_read hwith, hnarrowed]
  refine ⟨_, _, rfl, Source.get?_results_snapshot _ _ _ _, ?_⟩
  have hmatches : ∀ a, entry.MatchesShown (d.source.row a) ↔
      entry.Satisfied d.source.catalog a :=
    fun a => matchesShown_row_iff d.shown (d.block_describes a)
      (forall_mem_among.mp hnames).1 hshown
  rw [Source.get?_results_snapshot, List.filter_map]
  simp only [Function.comp_def, hmatches]

/-- Asks for volumes by tag. -/
def webDisks : Config :=
  [("filter", .list [.map [("name", .string "tags"), ("values", .list [.string "web"])]])]

/-- Asks for a letter in the label. -/
def letterBlock : Dictionary Value :=
  [("match_by", .string "sub"), ("name", .string "label"), ("values", .list [.string "a"])]

theorem read_narrowed_by_shown_disks :
    ∃ s s' rows, ((Fixture.ofEndpoints [("volumes", diskItems)]).run false
        (DataSource.volumes.read 3 ⟨"linode_volumes", "web"⟩ webDisks)).1 = .ok s ∧
      ((Fixture.ofEndpoints [("volumes", diskItems)]).run false
        (DataSource.volumes.read 3 ⟨"linode_volumes", "web"⟩
          (webDisks.withFilter (.map letterBlock :: webDisks.filterItems)))).1 = .ok s' ∧
      s.attributes.get? "volumes" = some (.list rows) ∧
      s'.attributes.get? "volumes" = some (.list (rows.filter (fun row =>
        (⟨"label", ["a"], .substring⟩ : Entry).MatchesShown row))) := by
  have hquery : Query.ofConfig webDisks =
      .ok ⟨[⟨"tags", ["web"], .exact⟩], none, none, false⟩ := rfl
  have hchecked := Source.checkedQuery_eq_ok.mpr ⟨(by decide +kernel :
    (DataSource.volumes.validate webDisks).hasError = false), hquery, rfl⟩
  have hread := Source.read_fixture_eq hchecked (DataSource.names_apart .volumes).2.2
    (show ∀ items ∈ (Fixture.ofEndpoints [("volumes", diskItems)]).endpoints.get? "volumes",
      items.length < UInt32.size by decide) 3 ⟨"linode_volumes", "web"⟩
  have hfound : (DataSource.volumes.source.outcome (.ofEndpoints [("volumes", diskItems)])
      ⟨[⟨"tags", ["web"], .exact⟩], none, none, false⟩).toOption.isSome = true := by
    decide +kernel
  obtain ⟨found, hout⟩ := Option.isSome_iff_exists.mp hfound
  rw [Outcomes.eq_ok_of_toOption hout] at hread
  have hplanned : (DataSource.volumes.plan diskConfig).toOption.isSome = true := by decide +kernel
  obtain ⟨plan, hplan⟩ := Option.isSome_iff_exists.mp hplanned
  have hspelled : Entry.SpelledBy ⟨"label", ["a"], .substring⟩ letterBlock :=
    ⟨rfl, ⟨["a"], rfl, by decide, rfl⟩, rfl⟩
  have hlatest : webDisks.get? "latest" ≠ some (.bool true) := nofun
  have hadded : webDisks.filterItems = webDisks.filterItems ++ [] := rfl
  have hplace : webDisks.filterItems = [] ++ webDisks.filterItems := rfl
  obtain ⟨s', rows, hnarrowed, hrows, hkept⟩ := read_narrowed_by_shown .volumes _ 3 _ hlatest
    hread hspelled hadded (Outcomes.eq_ok_of_toOption hplan) rfl nofun (by decide) hplace
  exact ⟨_, s', rows, hread, hnarrowed, hrows, hkept⟩

end DataSource

end CloudInventory
