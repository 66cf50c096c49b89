import CloudInventory.Proofs.FixtureRead
import CloudInventory.Proofs.Identity
import CloudInventory.Proofs.PlannedQuery

/-!
Queries that mean the same: their entries ask for the same comparisons, in whatever order and
however often they are said. Reads of one fixture cannot tell such queries apart.
-/
namespace CloudInventory

/-! ### Entries -/

namespace Entry

variable {a b : Entry}

theorem meaning_eq_iff :
    a.meaning = b.meaning ↔
      a.name = b.name ∧ (∀ value, value ∈ a.values ↔ value ∈ b.values) ∧ a.matchBy = b.matchBy := by
  simp only [meaning, Prod.mk.injEq, Finset.ext_iff, List.mem_toFinset]

/-- What is said of all entries of a list is said of their meanings, as long as it is the same for
all entries of one meaning. -/
theorem forall_iff_of_meanings {P : Entry → Prop}
    (hP : ∀ a b : Entry, a.meaning = b.meaning → (P a ↔ P b)) {xs ys : List Entry}
    (h : meanings xs = meanings ys) : (∀ e ∈ xs, P e) ↔ ∀ e ∈ ys, P e := by
  have hmem : ∀ zs : List Entry, ∀ m, m ∈ meanings zs ↔ ∃ e ∈ zs, e.meaning = m := by
    intro zs m
    rw [meanings, List.mem_toFinset, List.mem_map]
  have hone : ∀ zs ws : List Entry, meanings zs = meanings ws → (∀ e ∈ zs, P e) →
      ∀ e ∈ ws, P e := by
    intro zs ws hsame hall e he
    have hmeaning : e.meaning ∈ meanings zs := by
      rw [hsame, hmem]
      exact ⟨e, he, rfl⟩
    obtain ⟨e', he', heq⟩ := (hmem zs _).mp hmeaning
    exact (hP e' e heq).mp (hall e' he')
  exact ⟨hone xs ys h, hone ys xs h.symm⟩

theorem foundIn_of_meaning (h : a.meaning = b.meaning) (item : Json) :
    a.foundIn item = b.foundIn item := by
  obtain ⟨hname, hvalues, -⟩ := meaning_eq_iff.mp h
  rw [Bool.eq_iff_iff, foundIn, foundIn, List.any_eq_true, List.any_eq_true, hname]
  simp only [hvalues]

theorem satisfied_of_meaning {α : Type} (catalog : Catalog α) (h : a.meaning = b.meaning)
    (entity : α) : a.Satisfied catalog entity ↔ b.Satisfied catalog entity := by
  obtain ⟨hname, hvalues, hmatch⟩ := meaning_eq_iff.mp h
  simp only [Satisfied, hname, hvalues, hmatch]

theorem compiles_of_meaning (h : a.meaning = b.meaning) : a.Compiles ↔ b.Compiles := by
  obtain ⟨-, hvalues, hmatch⟩ := meaning_eq_iff.mp h
  simp only [Compiles, hvalues, hmatch]

theorem isRemoteEntry_of_meaning {α : Type} (catalog : Catalog α) (h : a.meaning = b.meaning) :
    catalog.isRemoteEntry a = catalog.isRemoteEntry b := by
  obtain ⟨hname, -, hmatch⟩ := meaning_eq_iff.mp h
  simp only [Catalog.isRemoteEntry, hname, hmatch]

theorem fingerprint_of_meanings {xs ys : List Entry} (h : meanings xs = meanings ys) :
    fingerprint xs = fingerprint ys :=
  congrArg (fun bytes => (Sha256.digest bytes).toHex) (encoding_of_meanings h)

end Entry

/-! ### Queries -/

/-- The same is asked for, and in the same order. -/
structure Query.SameMeaning (query other : Query) : Prop where
  filters : Entry.meanings query.filters = Entry.meanings other.filters
  order : query.order = other.order
  orderBy : query.orderBy = other.orderBy
  latest : query.latest = other.latest

/-- Two errors of one kind, from fetching the list, from a pattern, or from telling the most recent
element. -/
inductive FilterError.Alike : FilterError → FilterError → Prop where
  | list (reason : String) : Alike (.list reason) (.list reason)
  | regex (pattern other : String) (fault otherFault : Pattern.Fault) :
    Alike (.regex pattern fault) (.regex other otherFault)
  | latest (cause : LatestFault) : Alike (.latest cause) (.latest cause)

/-- Two outcomes with one result, or with errors of one kind. -/
inductive FilterError.Agree {β : Type} : Except FilterError β → Except FilterError β → Prop where
  | ok (b : β) : Agree (.ok b) (.ok b)
  | error {e e' : FilterError} (alike : e.Alike e') : Agree (.error e) (.error e')

namespace Catalog

variable {α : Type} {catalog : Catalog α} {query other : Query}

/-- The vendor selects the same items. -/
theorem selection_of_sameMeaning (h : query.SameMeaning other) (items : List Json) :
    catalog.selection query.filters query.order query.orderBy items =
      catalog.selection other.filters other.order other.orderBy items := by
  have hfound : ∀ item : Json,
      (query.filters.filter catalog.isRemoteEntry).all (·.foundIn item) =
        (other.filters.filter catalog.isRemoteEntry).all (·.foundIn item) := by
    intro item
    rw [Bool.eq_iff_iff]
    simp only [List.all_eq_true, List.mem_filter, and_imp]
    refine Entry.forall_iff_of_meanings (fun a b hab => ?_) h.filters
    rw [Entry.isRemoteEntry_of_meaning catalog hab, Entry.foundIn_of_meaning hab]
  simp only [selection, hfound, h.order, h.orderBy]

/-- The read keeps the same entities. -/
theorem satisfying_of_sameMeaning (h : query.SameMeaning other) (entities : List α) :
    catalog.satisfying query.filters entities = catalog.satisfying other.filters entities := by
  refine List.filter_congr (fun entity _ => decide_eq_decide.mpr ?_)
  simp only [localEntries, List.mem_filter, and_imp]
  refine Entry.forall_iff_of_meanings (fun a b hab => ?_) h.filters
  rw [Entry.isRemoteEntry_of_meaning catalog hab, Entry.satisfied_of_meaning catalog hab]

theorem concluded_agree (h : query.SameMeaning other)
    (hnames : ∀ entry ∈ query.filters, catalog.contains entry.name = true)
    (hothers : ∀ entry ∈ other.filters, catalog.contains entry.name = true)
    (key : Option (LatestKey α)) (listed : Except String (List α)) :
    FilterError.Agree (catalog.concluded query key listed)
      (catalog.concluded other key listed) := by
  have hcompiles : (∃ ps, catalog.compileEntries (catalog.localEntries query.filters) = .ok ps) ↔
      ∃ ps, catalog.compileEntries (catalog.localEntries other.filters) = .ok ps := by
    rw [compileEntries_localEntries_ok_iff hnames, compileEntries_localEntries_ok_iff hothers]
    exact Entry.forall_iff_of_meanings (fun a b hab => Entry.compiles_of_meaning hab) h.filters
  have hlocal : ∀ filters : List Entry, (∀ entry ∈ filters, catalog.contains entry.name = true) →
      ∀ entry ∈ catalog.localEntries filters, catalog.contains entry.name = true :=
    fun filters hall entry hentry => hall entry (List.mem_filter.mp hentry).1
  unfold concluded
  cases listed with
  | error reason => exact .error (.list reason)
  | ok entities =>
    rw [Outcomes.mapError_ok, Outcomes.ok_bind, Outcomes.ok_bind, h.latest,
      satisfying_of_sameMeaning h]
    cases hleft : catalog.compileEntries (catalog.localEntries query.filters) with
    | error e =>
      cases hright : catalog.compileEntries (catalog.localEntries other.filters) with
      | error e' =>
        obtain ⟨pattern, fault, rfl⟩ := compileEntries_eq_error (hlocal _ hnames) hleft
        obtain ⟨pattern', fault', rfl⟩ := compileEntries_eq_error (hlocal _ hothers) hright
        exact .error (.regex pattern pattern' fault fault')
      | ok ps =>
        obtain ⟨ps', hps'⟩ := hcompiles.mpr ⟨ps, hright⟩
        rw [hleft] at hps'
        cases hps'
    | ok ps =>
      obtain ⟨ps', hright⟩ := hcompiles.mp ⟨ps, hleft⟩
      rw [hright, Outcomes.ok_bind, Outcomes.ok_bind]
      cases hnarrow : narrow other.latest key (catalog.satisfying other.filters entities) with
      | ok found => exact .ok found
      | error e =>
        obtain ⟨cause, rfl⟩ := narrow_eq_error hnarrow
        exact .error (.latest cause)

end Catalog

namespace Source

variable {α : Type} {source : Source α} {query other : Query}

/-- A fixture answers the pages of both queries alike, so their lists are the same, however long. -/
theorem list_of_sameMeaning (h : query.SameMeaning other)
    (hreserved : source.catalog.get? "+or" = none) (f : Fixture) (pageSize : UInt32)
    (trace : Interaction.Trace Request) :
    ((source.list pageSize
        (source.catalog.filterDocument query.filters query.order query.orderBy).compact).runFrom
        (fun _ r => f.respond r) (fun _ => false) trace).1 =
      ((source.list pageSize
        (source.catalog.filterDocument other.filters other.order other.orderBy).compact).runFrom
        (fun _ r => f.respond r) (fun _ => false) trace).1 := by
  rw [list, list, Interaction.runFrom_map, Interaction.runFrom_map]
  refine congrArg (Except.mapError ApiError.message) (Listing.walkFrom_congr ?_ _ _ _ _)
  intro _ _ page
  have hselected : f.selected ⟨source.endpoint, page, pageSize, some
        (source.catalog.filterDocument query.filters query.order query.orderBy).compact⟩ =
      f.selected ⟨source.endpoint, page, pageSize, some
        (source.catalog.filterDocument other.filters other.order other.orderBy).compact⟩ := by
    simp only [Fixture.selected, Fixture.select_filterDocument hreserved,
      Catalog.selection_of_sameMeaning h]
  simp only [Fixture.respond, hselected]

theorem find_agree (h : query.SameMeaning other)
    (hquery : source.catalog.checkQuery query.filters query.orderBy = .ok ())
    (hother : source.catalog.checkQuery other.filters other.orderBy = .ok ())
    (hreserved : source.catalog.get? "+or" = none) (f : Fixture) (pageSize : UInt32) :
    FilterError.Agree (f.run false (source.find pageSize query)).1
      (f.run false (source.find pageSize other)).1 := by
  rw [find_uncancelled hquery, find_uncancelled hother, list_of_sameMeaning h hreserved]
  exact Catalog.concluded_agree h (Catalog.checkQuery_ok_iff.mp hquery).1
    (Catalog.checkQuery_ok_iff.mp hother).1 _ _

end Source

namespace DataSource

/-- Two configurations that have plans and spell queries of the same meaning are read alike from a
fixture: either both reads succeed, with the same rows under the same identifier, or both fail, with
errors of one kind. -/
theorem read_of_sameMeaning (d : DataSource) (f : Fixture) {config other : Config}
    {plan otherPlan : Plan} (hplan : d.plan config = .ok plan)
    (hotherPlan : d.plan other = .ok otherPlan) {query otherQuery : Query}
    (hquery : Query.ofConfig config = .ok query)
    (hotherQuery : Query.ofConfig other = .ok otherQuery) (hsame : query.SameMeaning otherQuery)
    (pageSize : UInt32) (id otherId : ResourceId) :
    (∃ s t rows, (f.run false (d.read pageSize id config)).1 = .ok s ∧
      (f.run false (d.read pageSize otherId other)).1 = .ok t ∧
      s.attributes.get? d.source.results = some (.list rows) ∧
      t.attributes.get? d.source.results = some (.list rows) ∧
      s.identifier = t.identifier ∧ s.attributes.get? "id" = t.attributes.get? "id") ∨
    ∃ e e' : FilterError, e.Alike e' ∧
      (f.run false (d.read pageSize id config)).1 = .error [e.toDiagnostic] ∧
      (f.run false (d.read pageSize otherId other)).1 = .error [e'.toDiagnostic] := by
  obtain ⟨hid, -, hreserved⟩ := d.names_apart
  obtain ⟨q, hchecked⟩ := Source.checkedQuery_of_plan hplan
  obtain ⟨r, hotherChecked⟩ := Source.checkedQuery_of_plan hotherPlan
  obtain ⟨-, hq, hinorder⟩ := Source.checkedQuery_eq_ok.mp hchecked
  obtain ⟨-, hr, hotherInorder⟩ := Source.checkedQuery_eq_ok.mp hotherChecked
  cases hquery.symm.trans hq
  cases hotherQuery.symm.trans hr
  have hagree := Source.find_agree hsame hinorder hotherInorder hreserved f pageSize
  rw [read, read, Source.run_read hchecked, Source.run_read hotherChecked]
  generalize (f.run false (d.source.find pageSize query)).1 = found at hagree
  generalize (f.run false (d.source.find pageSize otherQuery)).1 = otherFound at hagree
  cases hagree with
  | error alike => exact .inr ⟨_, _, alike, rfl, rfl⟩
  | ok entities =>
    have hidentifier := Entry.fingerprint_of_meanings hsame.filters
    refine .inl ⟨_, _, _, rfl, rfl, Source.get?_results_snapshot _ _ _ _,
      Source.get?_results_snapshot _ _ _ _, hidentifier, ?_⟩
    rw [Source.get?_id_snapshot hid, Source.get?_id_snapshot hid, hidentifier]

/-- Asks for volumes by tag and by a letter in their label. -/
def tagConfig : Config := [("filter", .list [
  .map [("name", .string "tags"), ("values", .list [.string "web", .string "db"])],
  .map [("match_by", .string "sub"), ("name", .string "label"), ("values", .list [.string "a"])]])]

/-- Asks for the same in other words. -/
def rewordedTagConfig : Config := [("filter", .list [
  .map [("match_by", .string "Substring"), ("name", .string "label"),
    ("values", .list [.string "a", .string "a"])],
  .map [("name", .string "tags"), ("values", .list [.string "db", .string "web"])],
  .map [("match_by", .string "exact"), ("name", .string "tags"),
    ("values", .list [.string "web", .string "db", .string "web"])]]), ("order", .null)]

theorem read_of_sameMeaning_disks :
    ∃ s t, ((Fixture.ofEndpoints [("volumes", diskItems)]).run false
        (DataSource.volumes.read 3 ⟨"linode_volumes", "web"⟩ tagConfig)).1 = .ok s ∧
      ((Fixture.ofEndpoints [("volumes", diskItems)]).run false
        (DataSource.volumes.read 3 ⟨"linode_volumes", "db"⟩ rewordedTagConfig)).1 = .ok t ∧
      s.attributes.get? "volumes" = t.attributes.get? "volumes" ∧
      s.identifier = t.identifier := by
  have hquery : Query.ofConfig tagConfig = .ok
      ⟨[⟨"tags", ["web", "db"], .exact⟩, ⟨"label", ["a"], .substring⟩], none, none, false⟩ := rfl
  have hother : Query.ofConfig rewordedTagConfig = .ok
      ⟨[⟨"label", ["a"], .substring⟩, ⟨"tags", ["db", "web"], .exact⟩,
        ⟨"tags", ["web", "db"], .exact⟩], none, none, false⟩ := rfl
  have hchecked := Source.checkedQuery_eq_ok.mpr ⟨(by decide +kernel :
    (DataSource.volumes.validate tagConfig).hasError = false), hquery, rfl⟩
  have hotherChecked := Source.checkedQuery_eq_ok.mpr ⟨(by decide +kernel :
    (DataSource.volumes.validate rewordedTagConfig).hasError = false), hother, rfl⟩
  have hplan := (Source.plan_eq_map _ _).trans (congrArg (Except.map _) hchecked)
  have hotherPlan := (Source.plan_eq_map _ _).trans (congrArg (Except.map _) hotherChecked)
  rcases read_of_sameMeaning .volumes (.ofEndpoints [("volumes", diskItems)]) hplan hotherPlan
    hquery hother ⟨by decide, rfl, rfl, rfl⟩ 3 ⟨"linode_volumes", "web"⟩ ⟨"linode_volumes", "db"⟩
    with ⟨s, t, rows, hs, ht, hrows, hotherRows, hidentifier, -⟩ | ⟨e, e', -, hfailed, -⟩
  · exact ⟨s, t, hs, ht, hrows.trans hotherRows.symm, hidentifier⟩
  · have hread := Source.read_fixture_eq hchecked (DataSource.names_apart .volumes).2.2
      (show ∀ items ∈ (Fixture.ofEndpoints [("volumes", diskItems)]).endpoints.get? "volumes",
        items.length < UInt32.size by decide) 3 ⟨"linode_volumes", "web"⟩
    have hfound : (DataSource.volumes.source.outcome (.ofEndpoints [("volumes", diskItems)])
        ⟨[⟨"tags", ["web", "db"], .exact⟩, ⟨"label", ["a"], .substring⟩], none, none,
          false⟩).toOption.isSome = true := by
      decide +kernel
    obtain ⟨found, hout⟩ := Option.isSome_iff_exists.mp hfound
    rw [Outcomes.eq_ok_of_toOption hout] at hread
    cases hfailed.symm.trans hread

end DataSource

end CloudInventory
