import CloudInventory.Dictionary

/-!
Which keys a dictionary of pairs has, and pairs that are a dictionary already.
-/
namespace CloudInventory.Dictionary

variable {β : Type}

theorem get?_nil (key : String) : get? ([] : Dictionary β) key = none := rfl

theorem contains_iff_mem_keys {entries : Dictionary β} {key : String} :
    entries.contains key = true ↔ key ∈ entries.keys := by
  induction entries with
  | nil => simp [contains, get?, keys]
  | cons entry rest ih =>
    obtain ⟨k, v⟩ := entry
    simp only [contains, keys, List.map_cons, List.mem_cons, get?_cons] at ih ⊢
    by_cases h : key = k
    · simp [h]
    · simp [h, ih]

theorem mem_keys_of_get? {entries : Dictionary β} {key : String} {value : β}
    (h : entries.get? key = some value) : key ∈ entries.keys := by
  rw [← contains_iff_mem_keys, contains, h, Option.isSome_some]

theorem contains_ofPairs {pairs : List (String × β)} {key : String} :
    (ofPairs pairs).contains key = true ↔ key ∈ pairs.map Prod.fst := by
  rw [contains_iff_mem_keys, ofPairs]
  suffices h : ∀ start : Dictionary β,
      key ∈ (pairs.foldl (fun entries p => entries.insert p.1 p.2) start).keys ↔
        key ∈ pairs.map Prod.fst ∨ key ∈ start.keys by
    rw [h []]
    simp [keys]
  induction pairs with
  | nil => simp
  | cons pair rest ih =>
    intro start
    rw [List.foldl_cons, ih, mem_keys_insert, List.map_cons, List.mem_cons]
    constructor
    · intro h
      rcases h with hrest | heq | hstart
      · exact .inl (.inr hrest)
      · exact .inl (.inl heq)
      · exact .inr hstart
    · intro h
      rcases h with (heq | hrest) | hstart
      · exact .inr (.inl heq)
      · exact .inl hrest
      · exact .inr (.inr hstart)

theorem Ordered.insertNew {entries : Dictionary β} (h : entries.Ordered) (key : String)
    (value : β) : (entries.insertNew key value).Ordered := by
  unfold Dictionary.insertNew
  split
  · exact h
  · exact h.insert key value

theorem Ordered.nodup {entries : Dictionary β} (h : entries.Ordered) : entries.keys.Nodup := by
  refine List.Pairwise.imp ?_ h
  intro k k' hlt heq
  exact String.lt_irrefl k' (heq ▸ hlt)

/-- Where each key stands once, looking a key up is finding its entry. -/
theorem get?_eq_some_iff {key : String} {value : β} {entries : Dictionary β}
    (h : entries.Ordered) : entries.get? key = some value ↔ (key, value) ∈ entries := by
  induction entries with
  | nil => simp [get?]
  | cons entry rest ih =>
    obtain ⟨k, v⟩ := entry
    obtain ⟨hfirst, hrest⟩ := List.pairwise_cons.mp h
    rw [get?_cons, List.mem_cons, Prod.mk.injEq, ← ih hrest]
    by_cases heq : key = k
    · subst key
      have hnone : get? rest k ≠ some value := by
        intro hget
        have hmem := List.mem_map_of_mem (f := Prod.fst) ((ih hrest).mp hget)
        exact String.lt_irrefl k (hfirst k hmem)
      simp [hnone, @eq_comm _ v]
    · simp [heq]

theorem mem_of_mem_insert {key : String} {value : β} {p : String × β} {entries : Dictionary β}
    (h : p ∈ entries.insert key value) : p = (key, value) ∨ p ∈ entries := by
  induction entries with
  | nil => exact .inl (List.mem_singleton.mp h)
  | cons entry rest ih =>
    obtain ⟨k, v⟩ := entry
    rw [insert] at h
    split at h
    · exact List.mem_cons.mp h
    · split at h
      · exact (List.mem_cons.mp h).imp_right (List.mem_cons_of_mem _)
      · rcases List.mem_cons.mp h with rfl | hrest
        · exact .inr List.mem_cons_self
        · exact (ih hrest).imp_right (List.mem_cons_of_mem _)

theorem mem_of_mem_ofPairs {pairs : List (String × β)} {p : String × β} (h : p ∈ ofPairs pairs) :
    p ∈ pairs := by
  suffices hfold : ∀ start : Dictionary β,
      p ∈ pairs.foldl (fun entries p => entries.insert p.1 p.2) start → p ∈ pairs ∨ p ∈ start by
    exact (hfold [] h).resolve_right List.not_mem_nil
  clear h
  induction pairs with
  | nil => exact fun _ hp => .inr hp
  | cons pair rest ih =>
    intro start hp
    rcases ih _ hp with hrest | hinsert
    · exact .inl (List.mem_cons_of_mem _ hrest)
    · rcases mem_of_mem_insert hinsert with rfl | hstart
      · exact .inl List.mem_cons_self
      · exact .inr hstart

/-- Pairs with different keys all stand in the dictionary that they make, so that what holds of its
entries holds of them. -/
theorem forall_of_ofPairs {pairs : List (String × β)} {P : String × β → Prop}
    (hall : ∀ p ∈ ofPairs pairs, P p) (h : (pairs.map Prod.fst).Nodup) : ∀ p ∈ pairs, P p := by
  intro p hp
  apply hall
  refine (get?_eq_some_iff (ordered_ofPairs pairs)).mp ?_
  -- a key whose pair is not to come any more keeps the value it has
  suffices hfold : ∀ start : Dictionary β,
      p ∈ pairs ∨ p.1 ∉ pairs.map Prod.fst ∧ get? start p.1 = some p.2 →
      get? (pairs.foldl (fun entries p => entries.insert p.1 p.2) start) p.1 = some p.2 by
    exact hfold [] (.inl hp)
  clear hp hall
  induction pairs with
  | nil =>
    intro start hstart
    rcases hstart with hmem | ⟨-, hget⟩
    · cases hmem
    · exact hget
  | cons pair rest ih =>
    intro start hstart
    obtain ⟨hpair, hrest⟩ := List.nodup_cons.mp h
    refine ih hrest _ ?_
    rcases hstart with hmem | ⟨hnot, hget⟩
    · rcases List.mem_cons.mp hmem with rfl | hlater
      · exact .inr ⟨hpair, get?_insert_self _ _ _⟩
      · exact .inl hlater
    · obtain ⟨hne, hlater⟩ := List.ne_and_not_mem_of_not_mem_cons hnot
      exact .inr ⟨hlater, by rw [get?_insert_of_ne hne, hget]⟩

theorem forall_ofPairs_iff {pairs : List (String × β)} {P : String × β → Prop}
    (h : (pairs.map Prod.fst).Nodup) : (∀ p ∈ ofPairs pairs, P p) ↔ ∀ p ∈ pairs, P p :=
  ⟨fun hall => forall_of_ofPairs hall h, fun hall p hp => hall p (mem_of_mem_ofPairs hp)⟩

theorem get?_ofPairs {pairs : List (String × β)} (h : (pairs.map Prod.fst).Nodup) {key : String}
    {value : β} (hp : (key, value) ∈ pairs) : (ofPairs pairs).get? key = some value :=
  forall_of_ofPairs (fun _ => (get?_eq_some_iff (ordered_ofPairs pairs)).mpr) h _ hp

theorem insert_of_after {key : String} {value : β} {entries : Dictionary β}
    (h : ∀ k ∈ entries.keys, k < key) : entries.insert key value = entries ++ [(key, value)] := by
  induction entries with
  | nil => rfl
  | cons entry rest ih =>
    obtain ⟨k, v⟩ := entry
    have hk : k < key := h k (by simp [keys])
    have hnot : ¬ key < k := String.lt_asymm hk
    have hne : key ≠ k := by
      intro heq
      subst heq
      exact hnot hk
    have hrest : ∀ other ∈ keys rest, other < key := by
      intro other hother
      exact h other (List.mem_cons_of_mem k hother)
    rw [insert, if_neg hnot, if_neg hne, ih hrest, List.cons_append]

/-- Pairs in the order of their keys are the dictionary that they make. -/
theorem ofPairs_of_ordered {pairs : List (String × β)} (h : Ordered pairs) :
    ofPairs pairs = pairs := by
  suffices hfold : ∀ start : Dictionary β, Ordered (start ++ pairs) →
      pairs.foldl (fun entries p => entries.insert p.1 p.2) start = start ++ pairs by
    exact hfold [] h
  clear h
  induction pairs with
  | nil => exact fun start _ => (List.append_nil start).symm
  | cons pair rest ih =>
    intro start hordered
    have hbefore : ∀ k ∈ start.keys, k < pair.1 := by
      intro k hk
      have hpairwise : (start.keys ++ keys (pair :: rest)).Pairwise (· < ·) := by
        simpa [Ordered, keys] using hordered
      exact (List.pairwise_append.mp hpairwise).2.2 k hk pair.1 (by simp [keys])
    rw [List.foldl_cons, insert_of_after hbefore, ih, List.append_assoc, List.singleton_append]
    rwa [List.append_assoc, List.singleton_append]

end CloudInventory.Dictionary
