import CloudInventory.Proofs.QueryGrammar

/-!
Which part of a configuration that spells no query is blamed. Of several malformed parts it is the
first: the elements of the filter come in their order, before the order, what to order by, and
whether only the latest is wanted.
-/
namespace CloudInventory.Query

/-! ### Malformed parts -/

/-- The parts of an element of a filter. -/
inductive ElementPart where
  | whole
  | name
  | values
  | value (j : Nat)
  | matchBy

namespace ElementPart

def place : ElementPart → Path
  | whole => []
  | name => [.key "name"]
  | values => [.key "values"]
  | value j => [.key "values", .index j]
  | matchBy => [.key "match_by"]

/-- Where a part comes among the others, in the order of lists. -/
def rank : ElementPart → List Nat
  | whole => [0]
  | name => [1]
  | values => [2]
  | value j => [3, j]
  | matchBy => [4]

def Malformed (item : Value) : ElementPart → Prop
  | whole => ∀ fields, item ≠ .map fields
  | name => ∃ fields, item = .map fields ∧ ∀ s, Dictionary.get? fields "name" ≠ some (.string s)
  | values => ∃ fields, item = .map fields ∧
      ∀ items, Dictionary.get? fields "values" = some (.list items) → items = []
  | value j => ∃ fields items v, item = .map fields ∧
      Dictionary.get? fields "values" = some (.list items) ∧ items[j]? = some v ∧
      ∀ s, v ≠ .string s
  | matchBy => ∃ fields, item = .map fields ∧ ¬ MatchBy.Fits (Dictionary.get? fields "match_by")

/-- The first malformed part of an element. -/
def First (item : Value) (part : ElementPart) : Prop :=
  part.Malformed item ∧ ∀ other : ElementPart, other.rank < part.rank → ¬ other.Malformed item

end ElementPart

/-- The parts of a configuration that a query is read from. -/
inductive Part where
  | filter
  | element (i : Nat) (part : ElementPart)
  | order
  | orderBy
  | latest

namespace Part

def place : Part → Path
  | filter => [.key "filter"]
  | element i part => .key "filter" :: .index i :: part.place
  | order => [.key "order"]
  | orderBy => [.key "order_by"]
  | latest => [.key "latest"]

/-- Where a part comes among the others, in the order of lists. -/
def rank : Part → List Nat
  | filter => [0]
  | element i part => 1 :: i :: part.rank
  | order => [2]
  | orderBy => [3]
  | latest => [4]

def Malformed (config : Config) : Part → Prop
  | filter => ¬ (Unset (config.get? "filter") ∨ ∃ items, config.get? "filter" = some (.list items))
  | element i part => ∃ items item, config.get? "filter" = some (.list items) ∧
      items[i]? = some item ∧ part.Malformed item
  | order => ¬ Order.Fits (config.get? "order")
  | orderBy => ¬ OrderByFits (config.get? "order_by")
  | latest => ¬ LatestFits (config.get? "latest")

/-- The first malformed part of a configuration. -/
def First (config : Config) (part : Part) : Prop :=
  part.Malformed config ∧ ∀ other : Part, other.rank < part.rank → ¬ other.Malformed config

end Part

/-! ### Places of errors -/

theorem orderOf_eq_error {given : Option Value} {e : FilterError} (h : orderOf given = .error e) :
    ∃ cause, e = .configuration cause (some [.key "order"]) := by
  unfold orderOf at h
  split at h
  · cases h
  · cases h
  · split at h <;> cases h
    exact ⟨_, rfl⟩
  · cases h
    exact ⟨_, rfl⟩

theorem orderByOf_eq_error {given : Option Value} {e : FilterError}
    (h : orderByOf given = .error e) :
    ∃ cause, e = .configuration cause (some [.key "order_by"]) := by
  unfold orderByOf at h
  split at h <;> cases h
  exact ⟨_, rfl⟩

theorem latestOf_eq_error {given : Option Value} {e : FilterError} (h : latestOf given = .error e) :
    ∃ cause, e = .configuration cause (some [.key "latest"]) := by
  unfold latestOf at h
  split at h <;> cases h
  exact ⟨_, rfl⟩

/-! ### Elements of a filter -/

variable {path : Path}

theorem nameOf_eq_error {given : Option Value} {e : FilterError}
    (h : nameOf path given = .error e) :
    (∀ s, given ≠ some (.string s)) ∧
      ∃ cause, e = .configuration cause (some (path ++ [.key "name"])) := by
  unfold nameOf at h
  split at h <;> cases h
  exact ⟨by assumption, _, rfl⟩

/-- Reading texts fails at the first value that is none. -/
theorem textsOf_eq_error {index : Nat} {items : List Value} {e : FilterError}
    (h : textsOf path index items = .error e) :
    ∃ j v, items[j]? = some v ∧ (∀ s, v ≠ .string s) ∧
      (∃ cause, e = .configuration cause (some (path ++ [.index (index + j)]))) ∧
      ∀ i < j, ∃ s, items[i]? = some (.string s) := by
  induction items generalizing index with
  | nil => cases h
  | cons item rest ih =>
    cases item with
    | string s =>
      obtain ⟨j, v, hv, hnot, ⟨cause, he⟩, hearlier⟩ := ih (Outcomes.map_eq_error.mp h)
      refine ⟨j + 1, v, hv, hnot, ⟨cause, ?_⟩, ?_⟩
      · rw [he, Nat.add_assoc, Nat.add_comm 1 j]
      · intro i hi
        cases i with
        | zero => exact ⟨s, rfl⟩
        | succ i => exact hearlier i (Nat.lt_of_succ_lt_succ hi)
    | null | int _ | float _ | bool _ | list _ | map _ =>
      cases h
      exact ⟨0, _, rfl, nofun, ⟨_, rfl⟩, nofun⟩

theorem valuesOf_eq_error {given : Option Value} {e : FilterError}
    (h : valuesOf path given = .error e) :
    (∀ items, given = some (.list items) → items = []) ∧
        (∃ cause, e = .configuration cause (some (path ++ [.key "values"]))) ∨
      ∃ items j v, given = some (.list items) ∧ items[j]? = some v ∧ (∀ s, v ≠ .string s) ∧
        (∃ cause, e = .configuration cause (some (path ++ [.key "values", .index j]))) ∧
        ∀ i < j, ∃ s, items[i]? = some (.string s) := by
  unfold valuesOf at h
  split at h
  · rename_i item rest
    obtain ⟨j, v, hv, hnot, ⟨cause, he⟩, hearlier⟩ := textsOf_eq_error h
    rw [Nat.zero_add, List.append_assoc] at he
    exact .inr ⟨item :: rest, j, v, rfl, hv, hnot, ⟨cause, he⟩, hearlier⟩
  · rename_i hno
    cases h
    refine .inl ⟨?_, _, rfl⟩
    rintro items rfl
    cases items with
    | nil => rfl
    | cons item rest => exact absurd rfl (hno item rest)

theorem matchByOf_eq_error {given : Option Value} {e : FilterError}
    (h : matchByOf path given = .error e) :
    ¬ MatchBy.Fits given ∧
      ∃ cause, e = .configuration cause (some (path ++ [.key "match_by"])) := by
  constructor
  · intro hfits
    obtain ⟨m, hm⟩ := exists_spelledBy_iff.mpr hfits
    exact Outcomes.not_ok_of_error h ⟨m, matchByOf_eq_ok.mpr hm⟩
  · unfold matchByOf at h
    split at h
    · cases h
    · cases h
    · split at h <;> cases h
      exact ⟨_, rfl⟩
    · cases h
      exact ⟨_, rfl⟩

namespace ElementPart

variable {fields : Dictionary Value}

theorem not_malformed_whole : ¬ whole.Malformed (.map fields) :=
  fun h => h fields rfl

theorem not_malformed_name {s : String} (h : fields.get? "name" = some (.string s)) :
    ¬ name.Malformed (.map fields) := by
  rintro ⟨_, ⟨⟩, hno⟩
  exact hno s h

theorem not_malformed_values {items : List Value} (h : fields.get? "values" = some (.list items))
    (hne : items ≠ []) : ¬ values.Malformed (.map fields) := by
  rintro ⟨_, ⟨⟩, hempty⟩
  exact hne (hempty items h)

theorem not_malformed_value {items : List Value} {j : Nat}
    (h : fields.get? "values" = some (.list items))
    (hj : ∀ v, items[j]? = some v → ∃ s, v = .string s) : ¬ (value j).Malformed (.map fields) := by
  rintro ⟨_, others, v, ⟨⟩, hothers, hv, hno⟩
  rw [h, Option.some.injEq, Value.list.injEq] at hothers
  subst hothers
  obtain ⟨s, rfl⟩ := hj v hv
  exact hno s rfl

theorem not_malformed_matchBy (h : MatchBy.Fits (fields.get? "match_by")) :
    ¬ matchBy.Malformed (.map fields) := by
  rintro ⟨_, ⟨⟩, hno⟩
  exact hno h

/-- In a list of texts every value is one. -/
theorem not_malformed_text {texts : List String}
    (h : fields.get? "values" = some (.list (texts.map .string))) (j : Nat) :
    ¬ (value j).Malformed (.map fields) := by
  refine not_malformed_value h (fun v hv => ?_)
  obtain ⟨s, -, rfl⟩ := List.mem_map.mp (List.mem_of_getElem? hv)
  exact ⟨s, rfl⟩

/-- An element that spells an entry has no malformed part. -/
theorem not_malformed_of_spelledIn {item : Value} {entry : Entry} (h : Entry.SpelledIn item entry)
    (part : ElementPart) : ¬ part.Malformed item := by
  obtain ⟨fields, rfl, hname, ⟨texts, htexts, hne, -⟩, hmatchBy⟩ := h
  cases part with
  | whole => exact not_malformed_whole
  | name => exact not_malformed_name hname
  | values => exact not_malformed_values htexts (by simpa using hne)
  | value j => exact not_malformed_text htexts j
  | matchBy => exact not_malformed_matchBy (exists_spelledBy_iff.mp ⟨_, hmatchBy⟩)

end ElementPart

/-- An element that spells no entry is blamed for its first malformed part. -/
theorem entryOf_eq_error {item : Value} {e : FilterError} (h : entryOf path item = .error e) :
    ∃ cause part, e = .configuration cause (some (path ++ part.place)) ∧
      ElementPart.First item part := by
  cases item with
  | map fields =>
    simp only [entryOf, Outcomes.bind_eq_error] at h
    rcases h with hname | ⟨name, hname, hvalues | ⟨texts, htexts, hmatchBy | ⟨m, -, hdone⟩⟩⟩
    · obtain ⟨hno, cause, rfl⟩ := nameOf_eq_error hname
      refine ⟨cause, .name, rfl, ⟨fields, rfl, hno⟩, fun other hbefore => ?_⟩
      cases other <;> simp [ElementPart.rank, List.cons_lt_cons_iff] at hbefore
      exact ElementPart.not_malformed_whole
    · have hname := nameOf_eq_ok.mp hname
      rcases valuesOf_eq_error hvalues with ⟨hempty, cause, rfl⟩ |
        ⟨items, j, v, hgiven, hv, hno, ⟨cause, rfl⟩, hearlier⟩
      · refine ⟨cause, .values, rfl, ⟨fields, rfl, hempty⟩, fun other hbefore => ?_⟩
        cases other <;> simp [ElementPart.rank, List.cons_lt_cons_iff] at hbefore
        · exact ElementPart.not_malformed_whole
        · exact ElementPart.not_malformed_name hname
      · have hne := List.ne_nil_of_mem (List.mem_of_getElem? hv)
        refine ⟨cause, .value j, rfl, ⟨fields, items, v, rfl, hgiven, hv, hno⟩,
          fun other hbefore => ?_⟩
        cases other <;> simp [ElementPart.rank, List.cons_lt_cons_iff] at hbefore
        · exact ElementPart.not_malformed_whole
        · exact ElementPart.not_malformed_name hname
        · exact ElementPart.not_malformed_values hgiven hne
        · refine ElementPart.not_malformed_value hgiven (fun u hu => ?_)
          obtain ⟨s, hs⟩ := hearlier _ hbefore
          exact ⟨s, Option.some.inj (hu.symm.trans hs)⟩
    · have hname := nameOf_eq_ok.mp hname
      obtain ⟨hgiven, hne⟩ := valuesOf_eq_ok.mp htexts
      obtain ⟨hno, cause, rfl⟩ := matchByOf_eq_error hmatchBy
      refine ⟨cause, .matchBy, rfl, ⟨fields, rfl, hno⟩, fun other hbefore => ?_⟩
      cases other <;> simp [ElementPart.rank, List.cons_lt_cons_iff] at hbefore
      · exact ElementPart.not_malformed_whole
      · exact ElementPart.not_malformed_name hname
      · exact ElementPart.not_malformed_values hgiven (by simpa using hne)
      · exact ElementPart.not_malformed_text hgiven _
    · cases hdone
  | null | string _ | int _ | float _ | bool _ | list _ =>
    cases h
    refine ⟨.entryNotObject, .whole, ?_, fun fields heq => ?_, fun other hbefore => ?_⟩
    · rw [ElementPart.place, List.append_nil]
    · cases heq
    · cases other <;> simp [ElementPart.rank, List.cons_lt_cons_iff] at hbefore

/-- Elements that do not all spell entries are blamed for the first malformed part of the first
element that spells none. -/
theorem entriesOf_eq_error {index : Nat} {items : List Value} {e : FilterError}
    (h : entriesOf index items = .error e) :
    ∃ cause i item part, items[i]? = some item ∧
      e = .configuration cause (some (.key "filter" :: .index (index + i) :: part.place)) ∧
      ElementPart.First item part ∧
      ∀ j < i, ∀ other ∈ items[j]?, ∃ entry, Entry.SpelledIn other entry := by
  induction items generalizing index with
  | nil => cases h
  | cons item rest ih =>
    simp only [entriesOf, Outcomes.bind_eq_error] at h
    rcases h with hfirst | ⟨entry, hentry, hrest | ⟨entries, -, hdone⟩⟩
    · obtain ⟨cause, part, he, hpart⟩ := entryOf_eq_error hfirst
      exact ⟨cause, 0, item, part, rfl, he, hpart, fun j hj => absurd hj (Nat.not_lt_zero j)⟩
    · obtain ⟨cause, i, found, part, hfound, he, hpart, hearlier⟩ := ih hrest
      refine ⟨cause, i + 1, found, part, hfound, ?_, hpart, fun j hj other hother => ?_⟩
      · rw [he, Nat.add_assoc, Nat.add_comm 1 i]
      · cases j with
        | zero =>
          cases hother
          exact ⟨entry, entryOf_eq_ok.mp hentry⟩
        | succ j => exact hearlier j (Nat.lt_of_succ_lt_succ hj) other hother
    · cases hdone

/-! ### The part to blame -/

section Blame

variable {config : Config}

theorem not_malformed_filter (h : FilterFits (config.get? "filter")) :
    ¬ Part.filter.Malformed config :=
  fun hno => hno (h.imp_right (fun ⟨items, hitems, _⟩ => ⟨items, hitems⟩))

theorem not_malformed_element (h : FilterFits (config.get? "filter")) (i : Nat)
    (part : ElementPart) : ¬ (Part.element i part).Malformed config := by
  rintro ⟨items, item, hitems, hitem, hpart⟩
  rcases h with (hunset | hunset) | ⟨others, hothers, hfit⟩
  · rw [hunset] at hitems
    cases hitems
  · rw [hunset] at hitems
    cases hitems
  · rw [hothers] at hitems
    cases hitems
    obtain ⟨entry, hentry⟩ := exists_spelledIn_iff.mpr (hfit item (List.mem_of_getElem? hitem))
    exact ElementPart.not_malformed_of_spelledIn hentry part hpart

theorem filtersOf_eq_error {e : FilterError}
    (h : filtersOf (config.get? "filter") = .error e) :
    ∃ cause part, e = .configuration cause (some part.place) ∧ Part.First config part := by
  cases hgiven : config.get? "filter" with
  | none =>
    rw [hgiven] at h
    cases h
  | some value =>
    rw [hgiven] at h
    cases value with
    | null => cases h
    | list items =>
      obtain ⟨cause, i, item, part, hitem, he, hpart, hearlier⟩ := entriesOf_eq_error h
      rw [Nat.zero_add] at he
      refine ⟨cause, .element i part, he, ⟨items, item, hgiven, hitem, hpart.1⟩,
        fun other hbefore => ?_⟩
      cases other with
      | filter => exact fun hno => hno (.inr ⟨items, hgiven⟩)
      | element j other =>
        rintro ⟨others, found, hothers, hfound, hmalformed⟩
        rw [hgiven] at hothers
        cases hothers
        simp only [Part.rank, List.cons_lt_cons_iff, Nat.lt_irrefl, true_and, false_or] at hbefore
        rcases hbefore with hj | ⟨rfl, hbefore⟩
        · obtain ⟨entry, hentry⟩ := hearlier j hj found hfound
          exact ElementPart.not_malformed_of_spelledIn hentry other hmalformed
        · rw [hitem] at hfound
          cases hfound
          exact hpart.2 other hbefore hmalformed
      | order | orderBy | latest => simp [Part.rank, List.cons_lt_cons_iff] at hbefore
    | string _ | int _ | float _ | bool _ | map _ =>
      cases h
      refine ⟨.filterNotList, .filter, rfl, ?_, fun other hbefore => ?_⟩
      · rw [Part.Malformed, hgiven, Unset]
        simp
      · cases other <;> simp [Part.rank, List.cons_lt_cons_iff] at hbefore

/-- A configuration that spells no query is blamed for its first malformed part. -/
theorem ofConfig_eq_error {e : FilterError} (h : ofConfig config = .error e) :
    ∃ cause part, e = .configuration cause (some part.place) ∧ Part.First config part := by
  simp only [ofConfig, Outcomes.bind_eq_error] at h
  rcases h with hfilters | ⟨entries, hentries, horder | ⟨order, horder, horderBy |
    ⟨orderBy, horderBy, hlatest | ⟨latest, -, hdone⟩⟩⟩⟩
  · exact filtersOf_eq_error hfilters
  · have hfilters := exists_filtersOf_iff.mp ⟨entries, hentries⟩
    obtain ⟨cause, rfl⟩ := orderOf_eq_error horder
    refine ⟨cause, .order, rfl, mt exists_orderOf_iff.mpr (Outcomes.not_ok_of_error horder),
      fun other hbefore => ?_⟩
    cases other with
    | filter => exact not_malformed_filter hfilters
    | element i part => exact not_malformed_element hfilters i part
    | order | orderBy | latest => simp [Part.rank, List.cons_lt_cons_iff] at hbefore
  · have hfilters := exists_filtersOf_iff.mp ⟨entries, hentries⟩
    have horder := exists_orderOf_iff.mp ⟨order, horder⟩
    obtain ⟨cause, rfl⟩ := orderByOf_eq_error horderBy
    refine ⟨cause, .orderBy, rfl, mt exists_orderByOf_iff.mpr (Outcomes.not_ok_of_error horderBy),
      fun other hbefore => ?_⟩
    cases other with
    | filter => exact not_malformed_filter hfilters
    | element i part => exact not_malformed_element hfilters i part
    | order => exact not_not_intro horder
    | orderBy | latest => simp [Part.rank, List.cons_lt_cons_iff] at hbefore
  · have hfilters := exists_filtersOf_iff.mp ⟨entries, hentries⟩
    have horder := exists_orderOf_iff.mp ⟨order, horder⟩
    have horderBy := exists_orderByOf_iff.mp ⟨orderBy, horderBy⟩
    obtain ⟨cause, rfl⟩ := latestOf_eq_error hlatest
    refine ⟨cause, .latest, rfl, mt exists_latestOf_iff.mpr (Outcomes.not_ok_of_error hlatest),
      fun other hbefore => ?_⟩
    cases other with
    | filter => exact not_malformed_filter hfilters
    | element i part => exact not_malformed_element hfilters i part
    | order => exact not_not_intro horder
    | orderBy => exact not_not_intro horderBy
    | latest => simp [Part.rank] at hbefore
  · cases hdone

end Blame

/-- A configuration spells a query just when it is grammatical. The query is then what is meant,
with one entry for each element of the filter, in order, whose values are those given, each once, in
the order in which they are first seen. Of any other configuration the first malformed part is
blamed. -/
theorem ofConfig_decodes_grammar (config : Config) :
    ((∃ query, ofConfig config = .ok query) ↔ Grammatical config) ∧
      (∀ query, ofConfig config = .ok query → Meant config query) ∧
      ∀ e, ofConfig config = .error e →
        ∃ cause part, e = .configuration cause (some part.place) ∧ Part.First config part :=
  ⟨exists_ofConfig_iff, fun _ => meant_of_ofConfig, fun _ => ofConfig_eq_error⟩

/-- An element of a filter by label. -/
def labelElement (values : List Value) (matchBy : String) : Value :=
  .map [("match_by", .string matchBy), ("name", .string "label"), ("values", .list values)]

/-- Gives a value twice. -/
def repeatedLabel : Config :=
  [("filter", .list [labelElement [.string "b", .string "a", .string "b"] "SUB"])]

/-- Two values of the second element are no texts, its comparison and the order are unknown. -/
def faultyLabels : Config :=
  [("filter", .list [labelElement [.string "b"] "",
      labelElement [.string "a", .int 3, .null] "glob"]),
    ("order", .string "up")]

theorem ofConfig_decodes_grammar_of_labels :
    (∃ query, ofConfig repeatedLabel = .ok query ∧
      query.filters = [⟨"label", ["b", "a"], .substring⟩] ∧ Meant repeatedLabel query) ∧
    ofConfig faultyLabels =
        .error (.configuration .valueNotString (some (Part.element 1 (.value 1)).place)) ∧
      Part.First faultyLabels (.element 1 (.value 1)) := by
  refine ⟨⟨⟨[⟨"label", ["b", "a"], .substring⟩], none, none, false⟩, rfl, rfl, ?_⟩, rfl, ?_⟩
  · exact (ofConfig_decodes_grammar _).2.1 _ rfl
  · obtain ⟨cause, part, he, hfirst⟩ := (ofConfig_decodes_grammar faultyLabels).2.2 _ rfl
    simp only [FilterError.configuration.injEq, Option.some.injEq] at he
    have hplace := he.2
    cases part with
    | element i inner =>
      cases inner <;> simp [Part.place, ElementPart.place] at hplace
      obtain ⟨rfl, rfl⟩ := hplace
      exact hfirst
    | filter | order | orderBy | latest => simp [Part.place] at hplace

end CloudInventory.Query
