import CloudInventory.Filter.Query
import CloudInventory.Proofs.Outcomes
import Mathlib.Data.List.Forall2

/-!
Which values spell a query: what a filter entry, a comparison and the parts of an order look like in
a configuration, apart from how they are decoded and where they stand.
-/
namespace CloudInventory

/-- A comparison is exact unless it is given, and then by one of its spellings. -/
def MatchBy.SpelledBy (m : MatchBy) : Option Value → Prop
  | none | some .null => m = .exact
  | some (.string s) => MatchBy.ofText? s = some m
  | some _ => False

/-- An object spells an entry by its name, one or more texts as values, and a comparison. -/
structure Entry.SpelledBy (entry : Entry) (fields : Dictionary Value) : Prop where
  name : fields.get? "name" = some (.string entry.name)
  values : ∃ texts : List String, fields.get? "values" = some (.list (texts.map .string)) ∧
    texts ≠ [] ∧ entry.values = texts.eraseDups
  matchBy : entry.matchBy.SpelledBy (fields.get? "match_by")

/-- An item of a filter is an object that spells an entry. -/
def Entry.SpelledIn (item : Value) (entry : Entry) : Prop :=
  ∃ fields, item = .map fields ∧ entry.SpelledBy fields

theorem exists_map_string {items : List Value} (h : ∀ item ∈ items, ∃ s, item = .string s) :
    ∃ texts : List String, items = texts.map .string := by
  induction items with
  | nil => exact ⟨[], rfl⟩
  | cons item rest ih =>
    obtain ⟨⟨s, rfl⟩, hrest⟩ := List.forall_mem_cons.mp h
    obtain ⟨texts, rfl⟩ := ih hrest
    exact ⟨s :: texts, rfl⟩

namespace Entry

variable {items : List Value} {entries : List Entry}

theorem exists_item (h : List.Forall₂ SpelledIn items entries) {entry : Entry}
    (hentry : entry ∈ entries) : ∃ item ∈ items, SpelledIn item entry := by
  induction h with
  | nil => cases hentry
  | cons hhead _ ih =>
    rcases List.mem_cons.mp hentry with rfl | hrest
    · exact ⟨_, List.mem_cons_self, hhead⟩
    · obtain ⟨item, hitem, hspelled⟩ := ih hrest
      exact ⟨item, List.mem_cons_of_mem _ hitem, hspelled⟩

theorem exists_entry (h : List.Forall₂ SpelledIn items entries) {item : Value}
    (hitem : item ∈ items) : ∃ entry ∈ entries, SpelledIn item entry := by
  induction h with
  | nil => cases hitem
  | cons hhead _ ih =>
    rcases List.mem_cons.mp hitem with rfl | hrest
    · exact ⟨_, List.mem_cons_self, hhead⟩
    · obtain ⟨entry, hentry, hspelled⟩ := ih hrest
      exact ⟨entry, List.mem_cons_of_mem _ hentry, hspelled⟩

theorem exists_entries (h : ∀ item ∈ items, ∃ entry, SpelledIn item entry) :
    ∃ entries, List.Forall₂ SpelledIn items entries := by
  induction items with
  | nil => exact ⟨[], .nil⟩
  | cons item rest ih =>
    obtain ⟨⟨entry, hentry⟩, hrest⟩ := List.forall_mem_cons.mp h
    obtain ⟨entries, hentries⟩ := ih hrest
    exact ⟨entry :: entries, .cons hentry hentries⟩

end Entry

namespace Query

variable {path : Path}

/-! ### Entries -/

theorem nameOf_eq_ok {given : Option Value} {name : String} :
    nameOf path given = .ok name ↔ given = some (.string name) := by
  unfold nameOf
  split
  · simp
  · rename_i h
    constructor
    · nofun
    · intro hgiven
      exact absurd hgiven (h name)

theorem textsOf_eq_ok {index : Nat} {items : List Value} {texts : List String} :
    textsOf path index items = .ok texts ↔ items = texts.map .string := by
  induction items generalizing index texts with
  | nil => simp [textsOf, eq_comm]
  | cons item rest ih =>
    cases item with
    | string s =>
      simp only [textsOf, Outcomes.map_eq_ok, ih]
      constructor
      · intro h
        obtain ⟨others, rfl, rfl⟩ := h
        rfl
      · intro h
        cases texts with
        | nil => cases h
        | cons text others =>
          rw [List.map_cons, List.cons.injEq, Value.string.injEq] at h
          exact ⟨others, h.2, by rw [h.1]⟩
    | null | int _ | float _ | bool _ | list _ | map _ => cases texts <;> simp [textsOf, misuse]

theorem valuesOf_eq_ok {given : Option Value} {texts : List String} :
    valuesOf path given = .ok texts ↔ given = some (.list (texts.map .string)) ∧ texts ≠ [] := by
  unfold valuesOf
  split
  · rename_i item rest
    rw [textsOf_eq_ok, Option.some.injEq, Value.list.injEq]
    constructor
    · intro h
      refine ⟨h, ?_⟩
      rintro rfl
      cases h
    · exact And.left
  · rename_i h
    constructor
    · nofun
    · intro hgiven
      obtain ⟨hlist, hne⟩ := hgiven
      cases texts with
      | nil => exact absurd rfl hne
      | cons text others => exact absurd hlist (h _ _)

theorem matchByOf_eq_ok {given : Option Value} {m : MatchBy} :
    matchByOf path given = .ok m ↔ m.SpelledBy given := by
  cases given with
  | none => simp [matchByOf, MatchBy.SpelledBy, eq_comm]
  | some value =>
    cases value with
    | null => simp [matchByOf, MatchBy.SpelledBy, eq_comm]
    | string s => cases h : MatchBy.ofText? s <;> simp [matchByOf, MatchBy.SpelledBy, h, misuse]
    | int _ | float _ | bool _ | list _ | map _ => simp [matchByOf, MatchBy.SpelledBy, misuse]

/-- An entry is decoded from an object that spells it, wherever that stands. -/
theorem entryOf_eq_ok {item : Value} {entry : Entry} :
    entryOf path item = .ok entry ↔ Entry.SpelledIn item entry := by
  unfold Entry.SpelledIn
  cases item with
  | map fields =>
    simp only [entryOf, Outcomes.bind_eq_ok, nameOf_eq_ok, valuesOf_eq_ok, matchByOf_eq_ok,
      Value.map.injEq, exists_eq_left']
    constructor
    · intro h
      obtain ⟨name, hname, texts, ⟨htexts, hne⟩, m, hm, heq⟩ := h
      cases heq
      exact ⟨hname, ⟨texts, htexts, hne, rfl⟩, hm⟩
    · intro h
      obtain ⟨texts, htexts, hne, hvalues⟩ := h.values
      refine ⟨_, h.name, texts, ⟨htexts, hne⟩, _, h.matchBy, ?_⟩
      rw [Entry.of, ← hvalues]
      rfl
  | null | string _ | int _ | float _ | bool _ | list _ => simp [entryOf, misuse]

/-- The entries decoded are one for each item, in order. -/
theorem entriesOf_eq_ok {index : Nat} {items : List Value} {entries : List Entry} :
    entriesOf index items = .ok entries ↔ List.Forall₂ Entry.SpelledIn items entries := by
  induction items generalizing index entries with
  | nil => simp [entriesOf, eq_comm]
  | cons item rest ih =>
    simp only [entriesOf, Outcomes.bind_eq_ok, ih, entryOf_eq_ok, List.forall₂_cons_left_iff]
    constructor
    · intro h
      obtain ⟨entry, hentry, others, hothers, heq⟩ := h
      cases heq
      exact ⟨entry, others, hentry, hothers, rfl⟩
    · intro h
      obtain ⟨entry, others, hentry, hothers, rfl⟩ := h
      exact ⟨entry, hentry, others, hothers, rfl⟩

theorem filtersOf_eq_ok {given : Option Value} {entries : List Entry} :
    filtersOf given = .ok entries ↔
      (given = none ∨ given = some .null) ∧ entries = [] ∨
      ∃ items, given = some (.list items) ∧ List.Forall₂ Entry.SpelledIn items entries := by
  cases given with
  | none => simp [filtersOf, eq_comm]
  | some value =>
    cases value with
    | null => simp [filtersOf, eq_comm]
    | list items => simp [filtersOf, entriesOf_eq_ok]
    | string _ | int _ | float _ | bool _ | map _ => simp [filtersOf, misuse]

/-! ### The whole query -/

theorem ofConfig_eq_ok {config : Config} {query : Query} :
    ofConfig config = .ok query ↔
      filtersOf (config.get? "filter") = .ok query.filters ∧
      orderOf (config.get? "order") = .ok query.order ∧
      orderByOf (config.get? "order_by") = .ok query.orderBy ∧
      latestOf (config.get? "latest") = .ok query.latest := by
  simp only [ofConfig, Outcomes.bind_eq_ok]
  constructor
  · intro h
    obtain ⟨filters, hfilters, order, horder, orderBy, horderBy, latest, hlatest, heq⟩ := h
    cases heq
    exact ⟨hfilters, horder, horderBy, hlatest⟩
  · intro h
    obtain ⟨hfilters, horder, horderBy, hlatest⟩ := h
    exact ⟨_, hfilters, _, horder, _, horderBy, _, hlatest, rfl⟩

end Query

end CloudInventory
