import CloudInventory.Proofs.SpelledQuery

/-!
The grammar of queries: which configurations spell one, said without decoding them, and what is read
from those that do.
-/
namespace CloudInventory

/-! ### Values, each once -/

/-- The values are the texts, each once, in the order in which they are first seen. -/
structure FirstSeen (texts values : List String) : Prop where
  distinct : values.Nodup
  same : ∀ s, s ∈ values ↔ s ∈ texts
  inOrder : values.Pairwise (fun s t => texts.idxOf s < texts.idxOf t)

theorem idxOf_cons_of_ne {a s : String} (h : s ≠ a) (texts : List String) :
    (a :: texts).idxOf s = texts.idxOf s + 1 := by
  rw [List.idxOf_cons, beq_eq_false_iff_ne.mpr h.symm, cond_false]

/-- Leaving texts out does not change which of two others is seen first. -/
theorem idxOf_lt_of_filter {keep : String → Bool} {s t : String} (ht : keep t = true)
    {texts : List String} (h : (texts.filter keep).idxOf s < (texts.filter keep).idxOf t) :
    texts.idxOf s < texts.idxOf t := by
  induction texts with
  | nil => exact absurd h (Nat.lt_irrefl _)
  | cons a rest ih =>
    by_cases hta : t = a
    · subst hta
      rw [List.filter_cons_of_pos ht, List.idxOf_cons_self] at h
      exact absurd h (Nat.not_lt_zero _)
    rw [idxOf_cons_of_ne hta]
    by_cases hsa : s = a
    · subst hsa
      rw [List.idxOf_cons_self]
      exact Nat.succ_pos _
    rw [idxOf_cons_of_ne hsa]
    refine Nat.succ_lt_succ (ih ?_)
    by_cases ha : keep a = true
    · rw [List.filter_cons_of_pos ha, idxOf_cons_of_ne hsa, idxOf_cons_of_ne hta] at h
      exact Nat.lt_of_succ_lt_succ h
    · rwa [List.filter_cons_of_neg ha] at h

theorem pairwise_idxOf_eraseDups (texts : List String) :
    texts.eraseDups.Pairwise (fun s t => texts.idxOf s < texts.idxOf t) := by
  match texts with
  | [] => exact .nil
  | a :: rest =>
    have hrest := pairwise_idxOf_eraseDups (rest.filter (fun b => !b == a))
    have hkeep : ∀ s ∈ (rest.filter (fun b => !b == a)).eraseDups, (!s == a) = true :=
      fun s hs => (List.mem_filter.mp (List.mem_eraseDups.mp hs)).2
    have hne : ∀ s ∈ (rest.filter (fun b => !b == a)).eraseDups, s ≠ a :=
      fun s hs => by simpa using hkeep s hs
    rw [List.eraseDups_cons]
    refine .cons (fun s hs => ?_) (hrest.imp_of_mem (fun {s t} hs ht hlt => ?_))
    · rw [List.idxOf_cons_self, idxOf_cons_of_ne (hne s hs)]
      exact Nat.succ_pos _
    · rw [idxOf_cons_of_ne (hne s hs), idxOf_cons_of_ne (hne t ht)]
      exact Nat.succ_lt_succ (idxOf_lt_of_filter (hkeep t ht) hlt)
termination_by texts.length
decreasing_by exact Nat.lt_succ_of_le (List.length_filter_le _ _)

theorem firstSeen_eraseDups (texts : List String) : FirstSeen texts texts.eraseDups where
  distinct := by
    refine (pairwise_idxOf_eraseDups texts).imp ?_
    rintro s _ hlt rfl
    exact Nat.lt_irrefl _ hlt
  same := fun _ => List.mem_eraseDups
  inOrder := pairwise_idxOf_eraseDups texts

/-! ### The grammar -/

/-- Nothing is given, or null, which comes to the same. -/
def Unset (given : Option Value) : Prop :=
  given = none ∨ given = some .null

/-- One of the spellings offered, in letters of either case, or the empty text. -/
def MatchBy.Spelling (s : String) : Prop :=
  String.ofList (s.toList.map Char.toLower) ∈ "" :: spellings

def MatchBy.Fits (given : Option Value) : Prop :=
  Unset given ∨ ∃ s, given = some (.string s) ∧ Spelling s

def Order.Fits (given : Option Value) : Prop :=
  Unset given ∨ given = some (.string "asc") ∨ given = some (.string "desc")

namespace Query

def OrderByFits (given : Option Value) : Prop :=
  Unset given ∨ ∃ s, given = some (.string s)

def LatestFits (given : Option Value) : Prop :=
  Unset given ∨ ∃ b, given = some (.bool b)

/-- An element of a filter: a map with a name, one or more texts as values and, unless it is left
out, a comparison. -/
structure ElementFits (fields : Dictionary Value) : Prop where
  name : ∃ s, fields.get? "name" = some (.string s)
  values : ∃ items, fields.get? "values" = some (.list items) ∧ items ≠ [] ∧
    ∀ item ∈ items, ∃ s, item = .string s
  matchBy : MatchBy.Fits (fields.get? "match_by")

def FilterFits (given : Option Value) : Prop :=
  Unset given ∨ ∃ items, given = some (.list items) ∧
    ∀ item ∈ items, ∃ fields, item = .map fields ∧ ElementFits fields

/-- A configuration that spells a query. -/
structure Grammatical (config : Config) : Prop where
  filter : FilterFits (config.get? "filter")
  order : Order.Fits (config.get? "order")
  orderBy : OrderByFits (config.get? "order_by")
  latest : LatestFits (config.get? "latest")

/-- The elements of the filter. -/
def elements (config : Config) : List Value :=
  match config.get? "filter" with
  | some (.list items) => items
  | _ => []

/-- The entry that is read from an element of a filter. -/
def ReadFrom (item : Value) (entry : Entry) : Prop :=
  ∃ (fields : Dictionary Value) (texts : List String), item = .map fields ∧
    fields.get? "name" = some (.string entry.name) ∧
    fields.get? "values" = some (.list (texts.map .string)) ∧ FirstSeen texts entry.values ∧
    entry.matchBy.SpelledBy (fields.get? "match_by")

/-- The query that is read from a configuration. -/
structure Meant (config : Config) (query : Query) : Prop where
  filters : List.Forall₂ ReadFrom (elements config) query.filters
  order : ∀ o, query.order = some o ↔ config.get? "order" = some (.string o.name)
  orderBy : ∀ s, query.orderBy = some s ↔ config.get? "order_by" = some (.string s)
  latest : query.latest = true ↔ config.get? "latest" = some (.bool true)

/-! ### Comparisons and the parts of an order -/

theorem exists_ofText?_iff {s : String} :
    (∃ m, MatchBy.ofText? s = some m) ↔ MatchBy.Spelling s := by
  simp only [MatchBy.ofText?, MatchBy.Spelling, MatchBy.spellings, List.mem_cons, List.not_mem_nil,
    or_false]
  generalize String.ofList (s.toList.map Char.toLower) = word
  split_ifs <;> grind

theorem exists_spelledBy_iff {given : Option Value} :
    (∃ m : MatchBy, m.SpelledBy given) ↔ MatchBy.Fits given := by
  rcases given with _ | value
  · simp [MatchBy.SpelledBy, MatchBy.Fits, Unset]
  cases value with
  | null => simp [MatchBy.SpelledBy, MatchBy.Fits, Unset]
  | string s => simp [MatchBy.SpelledBy, MatchBy.Fits, Unset, exists_ofText?_iff]
  | int _ | float _ | bool _ | list _ | map _ => simp [MatchBy.SpelledBy, MatchBy.Fits, Unset]

theorem ofText?_eq_some {s : String} {o : Order} : Order.ofText? s = some o ↔ s = o.name := by
  unfold Order.ofText?
  cases o <;> grind [Order.name]

theorem orderOf_eq_ok {given : Option Value} {order : Option Order} :
    orderOf given = .ok order ↔
      Unset given ∧ order = none ∨ ∃ o, order = some o ∧ given = some (.string o.name) := by
  rcases given with _ | value
  · simp [orderOf, Unset, eq_comm]
  cases value with
  | null => simp [orderOf, Unset, eq_comm]
  | string s =>
    simp only [← ofText?_eq_some, Unset, Option.some.injEq, Value.string.injEq, reduceCtorEq,
      or_self, false_and, false_or]
    cases h : Order.ofText? s <;> simp [orderOf, h, misuse, eq_comm]
  | int _ | float _ | bool _ | list _ | map _ => simp [orderOf, Unset, misuse]

theorem exists_orderOf_iff {given : Option Value} :
    (∃ order, orderOf given = .ok order) ↔ Order.Fits given := by
  simp only [orderOf_eq_ok]
  constructor
  · rintro ⟨order, ⟨hunset, -⟩ | ⟨o, -, ho⟩⟩
    · exact .inl hunset
    · cases o with
      | asc => exact .inr (.inl ho)
      | desc => exact .inr (.inr ho)
  · rintro (hunset | hasc | hdesc)
    · exact ⟨none, .inl ⟨hunset, rfl⟩⟩
    · exact ⟨some .asc, .inr ⟨.asc, rfl, hasc⟩⟩
    · exact ⟨some .desc, .inr ⟨.desc, rfl, hdesc⟩⟩

theorem orderByOf_eq_ok {given : Option Value} {orderBy : Option String} :
    orderByOf given = .ok orderBy ↔
      Unset given ∧ orderBy = none ∨ ∃ s, orderBy = some s ∧ given = some (.string s) := by
  rcases given with _ | value
  · simp [orderByOf, Unset, eq_comm]
  cases value with
  | null => simp [orderByOf, Unset, eq_comm]
  | string s => simp [orderByOf, Unset, eq_comm]
  | int _ | float _ | bool _ | list _ | map _ => simp [orderByOf, Unset, misuse]

theorem exists_orderByOf_iff {given : Option Value} :
    (∃ orderBy, orderByOf given = .ok orderBy) ↔ OrderByFits given := by
  simp only [orderByOf_eq_ok]
  constructor
  · rintro ⟨orderBy, ⟨hunset, -⟩ | ⟨s, -, hs⟩⟩
    · exact .inl hunset
    · exact .inr ⟨s, hs⟩
  · rintro (hunset | ⟨s, hs⟩)
    · exact ⟨none, .inl ⟨hunset, rfl⟩⟩
    · exact ⟨some s, .inr ⟨s, rfl, hs⟩⟩

theorem latestOf_eq_ok {given : Option Value} {latest : Bool} :
    latestOf given = .ok latest ↔
      Unset given ∧ latest = false ∨ given = some (.bool latest) := by
  rcases given with _ | value
  · simp [latestOf, Unset, eq_comm]
  cases value with
  | null => simp [latestOf, Unset, eq_comm]
  | bool b => simp [latestOf, Unset]
  | string _ | int _ | float _ | list _ | map _ => simp [latestOf, Unset, misuse]

theorem exists_latestOf_iff {given : Option Value} :
    (∃ latest, latestOf given = .ok latest) ↔ LatestFits given := by
  simp only [latestOf_eq_ok]
  constructor
  · rintro ⟨latest, ⟨hunset, -⟩ | hb⟩
    · exact .inl hunset
    · exact .inr ⟨latest, hb⟩
  · rintro (hunset | ⟨b, hb⟩)
    · exact ⟨false, .inl ⟨hunset, rfl⟩⟩
    · exact ⟨b, .inr hb⟩

/-! ### The whole query -/

theorem exists_spelledIn_iff {item : Value} :
    (∃ entry, Entry.SpelledIn item entry) ↔ ∃ fields, item = .map fields ∧ ElementFits fields := by
  constructor
  · rintro ⟨entry, fields, rfl, hname, ⟨texts, htexts, hne, -⟩, hmatchBy⟩
    refine ⟨fields, rfl, ⟨entry.name, hname⟩, ⟨_, htexts, by simpa using hne, ?_⟩,
      exists_spelledBy_iff.mp ⟨_, hmatchBy⟩⟩
    exact List.forall_mem_map.mpr (fun s _ => ⟨s, rfl⟩)
  · rintro ⟨fields, rfl, ⟨name, hname⟩, ⟨items, hitems, hne, hstrings⟩, hmatchBy⟩
    obtain ⟨texts, rfl⟩ := exists_map_string hstrings
    obtain ⟨m, hm⟩ := exists_spelledBy_iff.mpr hmatchBy
    exact ⟨.of name texts m, fields, rfl, hname, ⟨texts, hitems, by simpa using hne, rfl⟩, hm⟩

theorem exists_filtersOf_iff {given : Option Value} :
    (∃ entries, filtersOf given = .ok entries) ↔ FilterFits given := by
  simp only [filtersOf_eq_ok]
  constructor
  · rintro ⟨entries, ⟨hunset, -⟩ | ⟨items, hitems, hspelled⟩⟩
    · exact .inl hunset
    · refine .inr ⟨items, hitems, fun item hitem => ?_⟩
      obtain ⟨entry, -, hentry⟩ := Entry.exists_entry hspelled hitem
      exact exists_spelledIn_iff.mp ⟨entry, hentry⟩
  · rintro (hunset | ⟨items, hitems, hfit⟩)
    · exact ⟨[], .inl ⟨hunset, rfl⟩⟩
    · obtain ⟨entries, hentries⟩ :=
        Entry.exists_entries (fun item hitem => exists_spelledIn_iff.mpr (hfit item hitem))
      exact ⟨entries, .inr ⟨items, hitems, hentries⟩⟩

/-- Exactly the grammatical configurations spell a query. -/
theorem exists_ofConfig_iff {config : Config} :
    (∃ query, ofConfig config = .ok query) ↔ Grammatical config := by
  simp only [ofConfig_eq_ok]
  constructor
  · rintro ⟨query, hfilters, horder, horderBy, hlatest⟩
    exact ⟨exists_filtersOf_iff.mp ⟨_, hfilters⟩, exists_orderOf_iff.mp ⟨_, horder⟩,
      exists_orderByOf_iff.mp ⟨_, horderBy⟩, exists_latestOf_iff.mp ⟨_, hlatest⟩⟩
  · rintro ⟨hfilters, horder, horderBy, hlatest⟩
    obtain ⟨entries, hentries⟩ := exists_filtersOf_iff.mpr hfilters
    obtain ⟨order, horder⟩ := exists_orderOf_iff.mpr horder
    obtain ⟨orderBy, horderBy⟩ := exists_orderByOf_iff.mpr horderBy
    obtain ⟨latest, hlatest⟩ := exists_latestOf_iff.mpr hlatest
    exact ⟨⟨entries, order, orderBy, latest⟩, hentries, horder, horderBy, hlatest⟩

theorem readFrom_of_spelledIn {item : Value} {entry : Entry} (h : Entry.SpelledIn item entry) :
    ReadFrom item entry := by
  obtain ⟨fields, rfl, hname, ⟨texts, htexts, -, hvalues⟩, hmatchBy⟩ := h
  exact ⟨fields, texts, rfl, hname, htexts, hvalues ▸ firstSeen_eraseDups texts, hmatchBy⟩

/-- What is decoded is what is meant. -/
theorem meant_of_ofConfig {config : Config} {query : Query} (h : ofConfig config = .ok query) :
    Meant config query := by
  obtain ⟨hfilters, horder, horderBy, hlatest⟩ := ofConfig_eq_ok.mp h
  refine ⟨?_, fun o => ?_, fun s => ?_, ?_⟩
  · rcases filtersOf_eq_ok.mp hfilters with ⟨hunset | hunset, hnone⟩ | ⟨items, hitems, hspelled⟩
    · rw [elements, hunset, hnone]
      exact .nil
    · rw [elements, hunset, hnone]
      exact .nil
    · rw [elements, hitems]
      exact hspelled.imp (fun _ _ => readFrom_of_spelledIn)
  · rcases orderOf_eq_ok.mp horder with ⟨hunset | hunset, hnone⟩ | ⟨o', hsome, ho'⟩
    · simp [hunset, hnone]
    · simp [hunset, hnone]
    · rw [hsome, ho']
      cases o <;> cases o' <;> simp [Order.name]
  · rcases orderByOf_eq_ok.mp horderBy with ⟨hunset | hunset, hnone⟩ | ⟨s', hsome, hs'⟩
    · simp [hunset, hnone]
    · simp [hunset, hnone]
    · simp [hsome, hs']
  · rcases latestOf_eq_ok.mp hlatest with ⟨hunset | hunset, hnone⟩ | hb
    · simp [hunset, hnone]
    · simp [hunset, hnone]
    · simp [hb]

end Query

end CloudInventory
