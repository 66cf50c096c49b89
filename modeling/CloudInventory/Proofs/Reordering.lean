import CloudInventory.Value
import Mathlib.Data.List.Forall2

/-!
The order in which a map holds its entries. A map gives each key at most once and has no order of
its own, so that two arrangements of its entries are the same map.
-/
namespace CloudInventory

/-! ### Dictionaries in another order -/

theorem Dictionary.get?_of_perm {β : Type} {xs ys : Dictionary β} (h : xs.Perm ys)
    (distinct : xs.keys.Nodup) (key : String) : xs.get? key = ys.get? key := by
  induction h with
  | nil => rfl
  | cons entry _ ih =>
    obtain ⟨k, v⟩ := entry
    rw [get?_cons, get?_cons, ih (List.nodup_cons.mp distinct).2]
  | swap first second rest =>
    obtain ⟨k, v⟩ := first
    obtain ⟨k', v'⟩ := second
    have hne : k' ≠ k := (List.ne_and_not_mem_of_not_mem_cons (List.nodup_cons.mp distinct).1).1
    rw [get?_cons, get?_cons, get?_cons, get?_cons]
    by_cases hk : key = k
    · rw [if_pos hk, if_pos hk, if_neg (hk ▸ hne.symm)]
    · rw [if_neg hk, if_neg hk]
  | trans first _ ih ih' => exact (ih distinct).trans (ih' ((first.map _).nodup_iff.mp distinct))

theorem pairwise_sortTexts (texts : List String) : (sortTexts texts).Pairwise (· ≤ ·) := by
  refine (List.pairwise_mergeSort ?_ ?_ texts).imp of_decide_eq_true
  · intro a b c hab hbc
    exact decide_eq_true (String.le_trans (of_decide_eq_true hab) (of_decide_eq_true hbc))
  · intro a b
    simpa using String.le_total a b

/-- Texts that stand in order are in the order of their sorting. -/
theorem sortTexts_eq_of_perm {xs ys : List String} (h : ys.Perm xs)
    (hsorted : ys.Pairwise (· ≤ ·)) :
    sortTexts xs = ys :=
  List.Perm.eq_of_pairwise (fun _ _ _ _ => String.le_antisymm) (pairwise_sortTexts xs) hsorted
    ((List.mergeSort_perm xs _).trans h.symm)

theorem sortTexts_of_perm {xs ys : List String} (h : xs.Perm ys) : sortTexts xs = sortTexts ys :=
  sortTexts_eq_of_perm ((List.mergeSort_perm ys _).trans h.symm) (pairwise_sortTexts ys)

theorem filter_sortTexts (keep : String → Bool) (texts : List String) :
    (sortTexts texts).filter keep = sortTexts (texts.filter keep) :=
  (sortTexts_eq_of_perm ((List.mergeSort_perm texts _).filter keep)
    ((pairwise_sortTexts texts).filter keep)).symm

/-! ### Values in another order -/

namespace Value

/-- The same value, up to the order of the entries of maps, at every depth. -/
inductive Reordered : Value → Value → Prop where
  | refl (v : Value) : Reordered v v
  | trans {u v w : Value} (first : Reordered u v) (second : Reordered v w) : Reordered u w
  | entries {xs ys : Dictionary Value} (distinct : xs.keys.Nodup) (perm : xs.Perm ys) :
    Reordered (.map xs) (.map ys)
  | item (before after : List Value) {v w : Value} (inner : Reordered v w) :
    Reordered (.list (before ++ v :: after)) (.list (before ++ w :: after))
  | entry (before after : Dictionary Value) (key : String) {v w : Value} (inner : Reordered v w) :
    Reordered (.map (before ++ (key, v) :: after)) (.map (before ++ (key, w) :: after))

/-- Nothing is given twice, or two values that differ in order only. -/
inductive SameGiven : Option Value → Option Value → Prop where
  | none : SameGiven none none
  | some {v w : Value} (values : Reordered v w) : SameGiven (some v) (some w)

theorem SameGiven.refl : (given : Option Value) → SameGiven given given
  | .none => .none
  | .some v => .some (.refl v)

theorem SameGiven.trans {a b c : Option Value} (h : SameGiven a b) (h' : SameGiven b c) :
    SameGiven a c := by
  cases h with
  | none => exact h'
  | some values =>
    cases h' with
    | some values' => exact .some (values.trans values')

/-- Two maps that differ in order only have the same keys and under each the same, up to order. -/
structure SameEntries (xs ys : Dictionary Value) : Prop where
  keys : xs.keys.Perm ys.keys
  values : ∀ key, SameGiven (xs.get? key) (ys.get? key)

theorem SameEntries.of_entry (before after : Dictionary Value) (key : String) {v w : Value}
    (inner : Reordered v w) :
    SameEntries (before ++ (key, v) :: after) (before ++ (key, w) :: after) where
  keys := by
    rw [Dictionary.keys, Dictionary.keys, List.map_append, List.map_append]
    exact .refl _
  values := by
    intro name
    induction before with
    | nil =>
      rw [List.nil_append, List.nil_append, Dictionary.get?_cons, Dictionary.get?_cons]
      split
      · exact .some inner
      · exact .refl _
    | cons first rest ih =>
      obtain ⟨k, u⟩ := first
      rw [List.cons_append, List.cons_append, Dictionary.get?_cons, Dictionary.get?_cons]
      split
      · exact .refl _
      · exact ih

/-- Two values that differ in order only, seen from outside. -/
inductive Counterparts : Value → Value → Prop where
  | same (v : Value) : Counterparts v v
  | lists {xs ys : List Value} (items : List.Forall₂ Reordered xs ys) :
    Counterparts (.list xs) (.list ys)
  | maps {xs ys : Dictionary Value} (entries : SameEntries xs ys) : Counterparts (.map xs) (.map ys)

theorem forall₂_trans {xs ys zs : List Value} (h : List.Forall₂ Reordered xs ys)
    (h' : List.Forall₂ Reordered ys zs) : List.Forall₂ Reordered xs zs := by
  induction h generalizing zs with
  | nil => exact h'
  | cons first _ ih =>
    cases h' with
    | cons second rest => exact .cons (first.trans second) (ih rest)

theorem Counterparts.trans {u v w : Value} (h : Counterparts u v) (h' : Counterparts v w) :
    Counterparts u w := by
  cases h with
  | same => exact h'
  | lists items =>
    cases h' with
    | same => exact .lists items
    | lists items' => exact .lists (forall₂_trans items items')
  | maps entries =>
    cases h' with
    | same => exact .maps entries
    | maps entries' =>
      exact .maps ⟨entries.keys.trans entries'.keys,
        fun key => (entries.values key).trans (entries'.values key)⟩

theorem Reordered.counterparts {v w : Value} (h : Reordered v w) : Counterparts v w := by
  induction h with
  | refl v => exact .same v
  | trans _ _ ih ih' => exact ih.trans ih'
  | entries distinct perm =>
    exact .maps ⟨perm.map _, fun key => Dictionary.get?_of_perm perm distinct key ▸ .refl _⟩
  | item before after inner _ =>
    have hsame : ∀ items : List Value, List.Forall₂ Reordered items items :=
      fun items => List.forall₂_same.mpr (fun v _ => .refl v)
    exact .lists (List.rel_append (hsame before) (.cons inner (hsame after)))
  | entry before after key inner _ => exact .maps (.of_entry before after key inner)

theorem Reordered.of_maps {xs ys : Dictionary Value} (h : Reordered (.map xs) (.map ys)) :
    SameEntries xs ys := by
  cases h.counterparts with
  | same => exact ⟨.refl _, fun _ => .refl _⟩
  | maps entries => exact entries

end Value

end CloudInventory
