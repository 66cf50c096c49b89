import CloudInventory.Proofs.FixtureRead
import CloudInventory.Proofs.PlannedQuery
import CloudInventory.Proofs.QueryGrammar
import CloudInventory.Proofs.RequestLog

/-!
What a read may send. A configuration with errors is answered with them and nothing is asked; and
whatever is asked comes from a query in which every entry is well formed: it names a field, has
values, each once, and compares exactly only with values that suit the field.
-/
namespace CloudInventory

/-- An entry that can be evaluated as it is meant. -/
structure Entry.WellFormed {α : Type} (catalog : Catalog α) (entry : Entry) : Prop where
  registered : catalog.contains entry.name = true
  nonempty : entry.values ≠ []
  distinct : entry.values.Nodup
  suited : entry.matchBy = .exact → ∀ field ∈ catalog.get? entry.name, ∀ value ∈ entry.values,
    field.type.check value = .ok ()

/-- A query of well-formed entries, ordered by nothing that the vendor cannot order by. -/
structure Query.WellFormed {α : Type} (catalog : Catalog α) (query : Query) : Prop where
  entries : ∀ entry ∈ query.filters, entry.WellFormed catalog
  orderBy : ∀ name ∈ query.orderBy, catalog.isRemote name = true

/-- What a permitted block spells is well formed. -/
theorem Catalog.Permits.wellFormed {α : Type} {catalog : Catalog α} {block : Dictionary Value}
    (h : catalog.Permits block) {entry : Entry} (hspelled : entry.SpelledBy block) :
    entry.WellFormed catalog := by
  obtain ⟨texts, htexts, hne, hvalues⟩ := hspelled.values
  have hmem : ∀ value, value ∈ entry.values ↔ value ∈ texts := by
    intro value
    rw [hvalues, List.mem_eraseDups]
  exact {
    registered := by
      obtain ⟨name, hname, hcontains⟩ := h.name
      rw [hspelled.name, Option.some.injEq, Value.string.injEq] at hname
      rw [hname]
      exact hcontains
    nonempty := by
      obtain ⟨text, htext⟩ := List.exists_mem_of_ne_nil texts hne
      exact List.ne_nil_of_mem ((hmem text).mpr htext)
    distinct := by
      rw [hvalues]
      exact (firstSeen_eraseDups texts).distinct
    suited := by
      intro hexact field hfield value hvalue
      have hsuited := h.suited
      rw [checkBlock, hspelled.name] at hsuited
      simp only [get?_types, Option.mem_def.mp hfield, Option.map_some,
        matchByOfBlock_eq hspelled.matchBy, hexact, if_true, textsOfBlock_eq htexts] at hsuited
      exact checkTexts_eq_ok.mp hsuited value ((hmem value).mp hvalue) }

namespace DataSource

theorem wellFormed_of_checkedQuery (d : DataSource) {config : Config} {query : Query}
    (h : d.source.checkedQuery config = .ok query) : query.WellFormed d.source.catalog := by
  obtain ⟨hvalid, hquery, hinorder⟩ := Source.checkedQuery_eq_ok.mp h
  refine ⟨?_, (Catalog.checkQuery_ok_iff.mp hinorder).2⟩
  intro entry hentry
  obtain ⟨block, hpermitted, hspelled⟩ :=
    (d.permits_of_valid hvalid).exists_block hquery hentry
  exact hpermitted.wellFormed hspelled

/-- However the vendor answers and whenever the read is cancelled, a configuration with errors is
answered with them and nothing is asked, and if anything is asked, the configuration spells a
well-formed query. -/
theorem asks_only_wellFormed (d : DataSource) (respond : List Request → Request → Reply)
    (cancelled : Nat → Bool) (trace : Interaction.Trace Request) (pageSize : UInt32)
    (id : ResourceId) (config : Config) :
    ((d.validate config).hasError = true →
      (d.read pageSize id config).runFrom respond cancelled trace =
        (.error (d.validate config), trace)) ∧
    (((d.read pageSize id config).runFrom respond cancelled trace).2.requests ≠ trace.requests →
      ∃ query, Query.ofConfig config = .ok query ∧ query.WellFormed d.source.catalog) := by
  constructor
  · intro herror
    have hchecked : d.source.checkedQuery config = .error (d.validate config) :=
      if_pos herror
    rw [read, Source.read, hchecked]
    rfl
  · intro hasked
    cases hchecked : d.source.checkedQuery config with
    | error found =>
      rw [read, Source.read, hchecked] at hasked
      exact absurd rfl hasked
    | ok query =>
      exact ⟨query, (Source.checkedQuery_eq_ok.mp hchecked).2.1,
        d.wellFormed_of_checkedQuery hchecked⟩

/-- A label is asked for and a number instead of a label is not. -/
theorem asks_only_wellFormed_labels :
    (∃ query, Query.ofConfig (labelConfig [.string "web"]) = .ok query ∧
      query.WellFormed DataSource.volumes.source.catalog) ∧
    (Fixture.ofEndpoints []).run false (DataSource.volumes.read 25 ⟨"linode_volumes", "web"⟩
        (labelConfig [.int 1])) =
      (.error (DataSource.volumes.validate (labelConfig [.int 1])), []) := by
  have hasks := fun config => asks_only_wellFormed .volumes
    (fun _ r => (Fixture.ofEndpoints []).respond r) (fun _ => false) ⟨0, []⟩ 25
    ⟨"linode_volumes", "web"⟩ config
  constructor
  · refine (hasks _).2 ?_
    have hchecked := Source.checkedQuery_eq_ok.mpr ⟨(by decide +kernel :
      (DataSource.volumes.validate (labelConfig [.string "web"])).hasError = false), rfl, rfl⟩
    obtain ⟨count, hpositive, -, hrequests⟩ := Source.requests_find
      (Source.checkedQuery_eq_ok.mp hchecked).2.2 (fun _ r => (Fixture.ofEndpoints []).respond r)
      25 ⟨0, []⟩
    have hrun := congrArg Prod.snd (Source.run_read hchecked (.ofEndpoints []) false 25
      ⟨"linode_volumes", "web"⟩)
    intro hnone
    have hlength := congrArg List.length (hrequests.symm.trans (hrun.symm.trans hnone))
    simp [Listing.consecutive] at hlength
    omega
  · have hrefused := (hasks (labelConfig [.int 1])).1 (by decide +kernel)
    rw [Fixture.run, Interaction.run, hrefused]

end DataSource

end CloudInventory
