/-!
Dictionaries: lists of entries with texts as keys. Looking a key up finds its first entry;
`insert` keeps entries in key order, each key once, and the last value given for a key.
-/
namespace CloudInventory

/-- Entries of a dictionary; those built by `insert` are in key order, each key once. -/
abbrev Dictionary (α : Type) := List (String × α)

namespace Dictionary

variable {α β : Type}

def get? (entries : Dictionary α) (key : String) : Option α :=
  entries.lookup key

def contains (entries : Dictionary α) (key : String) : Bool :=
  (entries.get? key).isSome

def keys (entries : Dictionary α) : List String :=
  entries.map Prod.fst

/-- Sets the value of a key, in its place in the order of keys. -/
def insert (key : String) (value : α) : Dictionary α → Dictionary α
  | [] => [(key, value)]
  | (k, v) :: rest =>
    if key < k then (key, value) :: (k, v) :: rest
    else if key = k then (key, value) :: rest
    else (k, v) :: insert key value rest

/-- Sets the value of a key that has none yet. -/
def insertNew (key : String) (value : α) (entries : Dictionary α) : Dictionary α :=
  if entries.contains key then entries else entries.insert key value

/-- The dictionary of pairs in any order; of one key the last value stays. -/
def ofPairs (pairs : List (String × α)) : Dictionary α :=
  pairs.foldl (fun entries p => entries.insert p.1 p.2) []

/-- Keys strictly increasing: in order, each once. -/
def Ordered (entries : Dictionary α) : Prop :=
  entries.keys.Pairwise (· < ·)

/-! ### Looking up what was inserted -/

theorem get?_cons (key k : String) (v : α) (rest : Dictionary α) :
    get? ((k, v) :: rest) key = if key = k then some v else rest.get? key := by
  by_cases h : key = k
  · simp [get?, h]
  · simp [get?, List.lookup_cons, beq_eq_false_iff_ne.mpr h, h]

theorem get?_insert_self (key : String) (value : α) (entries : Dictionary α) :
    (entries.insert key value).get? key = some value := by
  induction entries with
  | nil => simp [insert, get?_cons]
  | cons entry rest ih =>
    obtain ⟨k, v⟩ := entry
    by_cases hlt : key < k
    · simp [insert, hlt, get?_cons]
    · by_cases heq : key = k
      · simp [insert, heq, get?_cons]
      · simp [insert, hlt, heq, get?_cons, ih]

theorem get?_insert_of_ne {key other : String} (h : other ≠ key) (value : α)
    (entries : Dictionary α) : (entries.insert key value).get? other = entries.get? other := by
  induction entries with
  | nil => simp [insert, h, get?]
  | cons entry rest ih =>
    obtain ⟨k, v⟩ := entry
    by_cases hlt : key < k
    · simp [insert, hlt, get?_cons, h]
    · by_cases heq : key = k
      · subst heq
        simp [insert, get?_cons, h]
      · simp [insert, hlt, heq, get?_cons, ih]

/-! ### The order of keys -/

theorem mem_keys_insert {key k : String} {value : α} {entries : Dictionary α} :
    k ∈ (entries.insert key value).keys ↔ k = key ∨ k ∈ entries.keys := by
  induction entries with
  | nil => simp [insert, keys]
  | cons entry rest ih =>
    obtain ⟨k', v⟩ := entry
    simp only [keys] at ih
    by_cases hlt : key < k'
    · simp [insert, hlt, keys]
    · by_cases heq : key = k'
      · subst heq
        simp [insert, keys]
      · simp only [insert, hlt, heq, if_false, keys, List.map_cons, List.mem_cons, ih]
        exact or_left_comm

theorem Ordered.insert {entries : Dictionary α} (h : entries.Ordered) (key : String) (value : α) :
    (entries.insert key value).Ordered := by
  induction entries with
  | nil => simp [Dictionary.insert, Ordered, keys]
  | cons entry rest ih =>
    obtain ⟨k, v⟩ := entry
    obtain ⟨hk, hrest⟩ := List.pairwise_cons.mp h
    by_cases hlt : key < k
    · simp only [Dictionary.insert, hlt, if_true]
      refine List.pairwise_cons.mpr ⟨?_, h⟩
      intro k' hk'
      rcases List.mem_cons.mp hk' with rfl | hmem
      · exact hlt
      · exact String.lt_trans hlt (hk k' hmem)
    · by_cases heq : key = k
      · subst heq
        simp only [Dictionary.insert, hlt, if_false, if_true]
        exact h
      · simp only [Dictionary.insert, hlt, heq, if_false]
        refine List.pairwise_cons.mpr ⟨?_, ih hrest⟩
        intro k' hk'
        rcases mem_keys_insert.mp hk' with rfl | hmem
        · exact Decidable.byContradiction (fun hge =>
            heq (String.le_antisymm (String.not_lt.mp hge) (String.not_lt.mp hlt)))
        · exact hk k' hmem

theorem ordered_ofPairs (pairs : List (String × α)) : (ofPairs pairs).Ordered := by
  suffices h : ∀ start : Dictionary α, start.Ordered →
      (pairs.foldl (fun entries p => entries.insert p.1 p.2) start).Ordered from
    h [] List.Pairwise.nil
  induction pairs with
  | nil => exact fun start h => h
  | cons pair rest ih => exact fun start h => ih _ (h.insert pair.1 pair.2)

end Dictionary

/-- Texts in order. -/
def sortTexts (texts : List String) : List String :=
  texts.mergeSort (fun a b => decide (a ≤ b))

/-- Texts in order, each once. -/
def distinctTexts (texts : List String) : List String :=
  (sortTexts texts).eraseReps

end CloudInventory
