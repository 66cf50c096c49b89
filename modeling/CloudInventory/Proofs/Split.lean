import CloudInventory.Proofs.FilterDocument
import CloudInventory.Proofs.UncancelledRead

/-!
Between the vendor, which sees a part of the entries as text, and the read, which evaluates the
others, every entry is applied once and none is forgotten.
-/
namespace CloudInventory

/-- The items of the array that is a member of a document; without one there are none. -/
def Json.itemsAt (document : Json) (key : String) : List Json :=
  match document.member? key with
  | some (.array items) => items
  | _ => []

namespace Catalog

variable {α ρ σ : Type} {catalog : Catalog α}

/-- An alternative gives one field one text, which has to be among the leaves of the field. -/
def offers (catalog : Catalog α) (entity : α) : Json → Bool
  | .object [(name, .string text)] =>
    (catalog.get? name).any (fun field => (field.accessor entity).leaves.contains text)
  | _ => false

/-- Every clause of a filter document has an alternative that fits the entity. -/
def selects (catalog : Catalog α) (document : Json) (entity : α) : Bool :=
  (document.itemsAt "+and").all (fun clause =>
    (clause.itemsAt "+or").any (catalog.offers entity))

/-- A listing that honours the filter text it was given: with one look made and nothing asked, it
brings exactly the entities that the document of the text selects, in their order. -/
def Honours (catalog : Catalog α) (respond : List ρ → ρ → σ) (entities : List α) (text : String)
    (listing : Interaction ρ σ (Except String (List α))) : Prop :=
  ∀ document, Json.parse? text = some document →
    (listing.runFrom respond (fun _ => false) ⟨1, []⟩).1 =
      .ok (entities.filter (catalog.selects document))

/-- The alternatives of an entry fit an entity just when the entry, taken as exact, is satisfied. -/
theorem any_offers_clause {entry : Entry} (h : entry.matchBy = .exact) (entity : α) :
    ((clause entry).itemsAt "+or").any (catalog.offers entity) = true ↔
      entry.Satisfied catalog entity := by
  have hitems : (clause entry).itemsAt "+or" =
      entry.values.map (fun v => .object [(entry.name, .string v)]) := rfl
  rw [hitems, List.any_map, List.any_eq_true]
  unfold Entry.Satisfied
  cases hfield : catalog.get? entry.name with
  | none => simp [offers, hfield]
  | some field =>
    simp only [Function.comp_apply, offers, hfield, Option.any_some, List.contains_iff_mem, h,
      MatchBy.Accepts, Option.mem_some_iff, exists_eq_left']
    constructor
    · intro h
      obtain ⟨value, hvalue, hleaf⟩ := h
      exact ⟨value, hleaf, value, hvalue, rfl⟩
    · intro h
      obtain ⟨text, hleaf, value, hvalue, rfl⟩ := h
      exact ⟨text, hvalue, hleaf⟩

theorem isRemoteEntry_iff {entry : Entry} :
    catalog.isRemoteEntry entry = true ↔
      entry.matchBy = .exact ∧ catalog.isRemote entry.name = true := by
  simp [isRemoteEntry]

/-- The vendor applies the entries that are sent to it. -/
theorem selects_filterDocument (filters : List Entry) (order : Option Order)
    (orderBy : Option String) (entity : α) :
    catalog.selects (catalog.filterDocument filters order orderBy) entity = true ↔
      ∀ entry ∈ filters, catalog.isRemoteEntry entry = true → entry.Satisfied catalog entity := by
  have hitems : (catalog.filterDocument filters order orderBy).itemsAt "+and" =
      (filters.filter catalog.isRemoteEntry).map clause := rfl
  rw [selects, hitems, List.all_map, List.all_eq_true]
  constructor
  · intro hall entry hmem hremote
    have hclause := hall entry (List.mem_filter.mpr ⟨hmem, hremote⟩)
    exact (any_offers_clause (isRemoteEntry_iff.mp hremote).1 entity).mp hclause
  · intro hall entry hmem
    obtain ⟨hmem, hremote⟩ := List.mem_filter.mp hmem
    exact (any_offers_clause (isRemoteEntry_iff.mp hremote).1 entity).mpr (hall entry hmem hremote)

/-- The entries that are sent and those that are not are together all entries. -/
theorem satisfying_filter_selects (filters : List Entry) (order : Option Order)
    (orderBy : Option String) (entities : List α) :
    catalog.satisfying filters
        (entities.filter (catalog.selects (catalog.filterDocument filters order orderBy))) =
      entities.filter (fun e => ∀ entry ∈ filters, entry.Satisfied catalog e) := by
  unfold satisfying
  rw [List.filter_filter]
  apply List.filter_congr
  intro e _
  rw [Bool.eq_iff_iff, Bool.and_eq_true, decide_eq_true_iff, decide_eq_true_iff,
    selects_filterDocument]
  constructor
  · intro h entry hmem
    obtain ⟨hlocal, hremote⟩ := h
    cases h : catalog.isRemoteEntry entry with
    | true => exact hremote entry hmem h
    | false => exact hlocal entry (List.mem_filter.mpr ⟨hmem, by simp [h]⟩)
  · intro hall
    exact ⟨fun entry hmem => hall entry (List.mem_filter.mp hmem).1,
      fun entry hmem _ => hall entry hmem⟩

/-- Over a list that honours the filter which it is sent, a read that is not cancelled yields exactly
the entities that satisfy every entry, each as often and in the order in which the list has them. -/
theorem listAndFilter_keeps_satisfying {respond : List ρ → ρ → σ} {entities : List α}
    {list : String → Interaction ρ σ (Except String (List α))} {filters : List Entry}
    {order : Option Order} {orderBy : Option String}
    (hnames : ∀ entry ∈ filters, catalog.contains entry.name = true)
    (hpatterns : ∀ entry ∈ filters, entry.Compiles)
    (horder : ∀ name ∈ orderBy, catalog.isRemote name = true)
    (hlist : ∀ text, catalog.filterText filters order orderBy = .ok text →
      catalog.Honours respond entities text (list text)) :
    ((catalog.listAndFilter list filters order orderBy).run respond (fun _ => false)).1 =
      .ok (entities.filter (fun e => ∀ entry ∈ filters, entry.Satisfied catalog e)) := by
  have hquery : catalog.checkQuery filters orderBy = .ok () :=
    checkQuery_ok_iff.mpr ⟨hnames, horder⟩
  obtain ⟨predicates, hcompiled⟩ := (compileEntries_localEntries_ok_iff hnames).mpr hpatterns
  have hlisted := hlist _ (filterText_eq_ok hnames) _ (parse?_filterDocument filters order orderBy)
  generalize hrun : (list _).runFrom respond (fun _ => false) ⟨1, []⟩ = outcome at hlisted
  obtain ⟨listed, later⟩ := outcome
  cases hlisted
  obtain ⟨polls, hkept⟩ := afterList_ok_uncancelled hcompiled _ later
  rw [Interaction.run, listAndFilter_uncancelled (checkedFilter_eq_ok hquery) hrun, hkept,
    satisfying_filter_selects]

/-- What a vendor of some entities answers to a filter. It refuses what is not an object. -/
def answer (catalog : Catalog α) (entities : List α) (text : String) : Except String (List α) :=
  match Json.parse? text with
  | some (.object members) => .ok (entities.filter (catalog.selects (.object members)))
  | some _ => .error "the filter is not an object"
  | none => .error "the filter is not a document"

/-- A list that sends its filter to the vendor honours the filters that a read sends. -/
theorem honours_answer (entities : List α) (filters : List Entry) (order : Option Order)
    (orderBy : Option String) :
    catalog.Honours (fun _ => catalog.answer entities) entities
      (catalog.filterDocument filters order orderBy).compact
      (.ask (catalog.filterDocument filters order orderBy).compact .done) := by
  intro document hparsed
  rw [parse?_filterDocument] at hparsed
  cases hparsed
  simp only [Interaction.runFrom, answer, parse?_filterDocument]
  rfl

/-- Machines by label, with tags; the vendor filters them by label only. -/
def machines : Catalog (String × List String) := .ofList [
  remote "label" .string (fun m => .string m.1),
  here "tags" .string (fun m => .texts m.2)]

/-- Some machines, of which two have a label in common. -/
def rack : List (String × List String) :=
  [("web", ["prod"]), ("a\"b", ["prod", "eu"]), ("web", []), ("db", ["prod"]), ("web", ["prod"])]

/-- Entries of which the first is sent and the others are not. -/
def wanted : List Entry :=
  [⟨"label", ["web", "a\"b"], .exact⟩, ⟨"tags", ["ro"], .substring⟩, ⟨"label", ["^w"], .regex⟩]

theorem listAndFilter_keeps_satisfying_machines :
    ((machines.listAndFilter (fun text => .ask text .done) wanted (some .asc) (some "label")).run
        (fun _ => machines.answer rack) (fun _ => false)).1 =
      .ok [("web", ["prod"]), ("web", ["prod"])] := by
  have hpatterns : ∀ entry ∈ wanted, entry.Compiles := by
    intro entry hentry hregex pattern hpattern
    simp only [wanted, List.mem_cons, List.not_mem_nil, or_false] at hentry
    rcases hentry with rfl | rfl | rfl
    · cases hregex
    · cases hregex
    · cases List.mem_singleton.mp hpattern
      exact ⟨_, rfl⟩
  have hlist : ∀ text, machines.filterText wanted (some .asc) (some "label") = .ok text →
      machines.Honours (fun _ => machines.answer rack) rack text (.ask text .done) := by
    intro text htext
    rw [filterText_eq_ok (by decide)] at htext
    cases htext
    exact honours_answer rack wanted (some .asc) (some "label")
  exact (listAndFilter_keeps_satisfying (by decide) hpatterns (by decide) hlist).trans
    (congrArg Except.ok (by decide))

end Catalog

end CloudInventory
