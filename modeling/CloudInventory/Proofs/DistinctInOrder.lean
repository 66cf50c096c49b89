import CloudInventory.Dictionary

/-!
Putting elements in order, each once, depends on which elements there are and on nothing else.
-/
namespace CloudInventory

section EraseReps

variable {α : Type} [DecidableEq α]

theorem eraseReps_loop (previous : α) (rest done : List α) :
    List.eraseRepsBy.loop (fun a b : α => a == b) previous rest done =
      done.reverse ++ (previous :: rest).eraseReps := by
  induction rest generalizing previous done with
  | nil => simp [List.eraseRepsBy.loop, List.eraseReps, List.eraseRepsBy]
  | cons a rest ih =>
    simp only [List.eraseReps, List.eraseRepsBy, List.eraseRepsBy.loop]
    cases previous == a with
    | true => exact ih previous done
    | false => simp [ih]

theorem eraseReps_cons_cons (a b : α) (rest : List α) :
    (a :: b :: rest).eraseReps =
      if a = b then (b :: rest).eraseReps else a :: (b :: rest).eraseReps := by
  by_cases h : a = b
  · subst h
    simp [List.eraseReps, List.eraseRepsBy, List.eraseRepsBy.loop]
  · have hne : (a == b) = false := beq_eq_false_iff_ne.mpr h
    rw [if_neg h]
    simp only [List.eraseReps, List.eraseRepsBy, List.eraseRepsBy.loop, hne]
    rw [eraseReps_loop]
    rfl

theorem mem_eraseReps {a : α} {elements : List α} : a ∈ elements.eraseReps ↔ a ∈ elements := by
  match elements with
  | [] => simp [List.eraseReps, List.eraseRepsBy]
  | [b] => simp [List.eraseReps, List.eraseRepsBy, List.eraseRepsBy.loop]
  | b :: c :: rest =>
    have ih : a ∈ (c :: rest).eraseReps ↔ a ∈ c :: rest := mem_eraseReps
    rw [eraseReps_cons_cons]
    split
    · subst b
      rw [ih, List.mem_cons (l := c :: rest)]
      exact ⟨Or.inr, fun h => h.elim (fun heq => heq ▸ List.mem_cons_self) id⟩
    · rw [List.mem_cons, ih, List.mem_cons (l := c :: rest)]

/-- Of elements that stand in order, what is left stands in order without repetition. -/
theorem pairwise_ne_eraseReps {before : α → α → Prop} (elements : List α)
    (antisymm : ∀ a b, before a b → before b a → a = b) (h : elements.Pairwise before) :
    elements.eraseReps.Pairwise (fun a b => before a b ∧ a ≠ b) := by
  match elements with
  | [] => simp [List.eraseReps, List.eraseRepsBy]
  | [a] => simp [List.eraseReps, List.eraseRepsBy, List.eraseRepsBy.loop]
  | a :: b :: rest =>
    obtain ⟨hfirst, hrest⟩ := List.pairwise_cons.mp h
    have hstrict := pairwise_ne_eraseReps (b :: rest) antisymm hrest
    rw [eraseReps_cons_cons]
    split
    · exact hstrict
    · refine List.pairwise_cons.mpr ⟨?_, hstrict⟩
      intro c hc
      have hmem := mem_eraseReps.mp hc
      refine ⟨hfirst c hmem, ?_⟩
      intro heq
      subst heq
      -- `a` again further on would stand on both sides of `b`
      rcases List.mem_cons.mp hmem with heq | hlater
      · exact absurd heq ‹_›
      · exact absurd (antisymm a b (hfirst b List.mem_cons_self)
          ((List.pairwise_cons.mp hrest).1 a hlater)) ‹_›

end EraseReps

section Canonical

variable {α : Type} {cmp : α → α → Ordering} [Std.TransCmp cmp]

theorem isLE_total (a b : α) : (cmp a b).isLE = true ∨ (cmp b a).isLE = true := by
  have hswap : cmp b a = (cmp a b).swap := Std.OrientedCmp.eq_swap
  rw [hswap]
  cases cmp a b with
  | lt => exact .inl rfl
  | eq => exact .inl rfl
  | gt => exact .inr rfl

variable [Std.LawfulEqCmp cmp]

theorem eq_of_isLE {a b : α} (hab : (cmp a b).isLE = true) (hba : (cmp b a).isLE = true) : a = b :=
  Std.LawfulEqCmp.eq_of_compare (Std.OrientedCmp.isLE_antisymm hab hba)

/-- Two lists give the same elements in order, each once, just when they have the same elements. -/
theorem eraseReps_mergeSort_eq_iff [DecidableEq α] (xs ys : List α) :
    (xs.mergeSort (fun a b => (cmp a b).isLE)).eraseReps =
        (ys.mergeSort (fun a b => (cmp a b).isLE)).eraseReps ↔ ∀ a, a ∈ xs ↔ a ∈ ys := by
  have hmem : ∀ zs : List α, ∀ a,
      a ∈ (zs.mergeSort (fun a b => (cmp a b).isLE)).eraseReps ↔ a ∈ zs := by
    intro zs a
    rw [mem_eraseReps, (List.mergeSort_perm zs _).mem_iff]
  have hstrict : ∀ zs : List α,
      (zs.mergeSort (fun a b => (cmp a b).isLE)).eraseReps.Pairwise
        (fun a b => (cmp a b).isLE = true ∧ a ≠ b) := by
    intro zs
    refine pairwise_ne_eraseReps _ (fun a b => eq_of_isLE) ?_
    refine List.pairwise_mergeSort (fun a b c => Std.TransCmp.isLE_trans) ?_ zs
    intro a b
    rw [Bool.or_eq_true]
    exact isLE_total a b
  constructor
  · intro h a
    rw [← hmem xs, ← hmem ys, h]
  · intro h
    refine List.Perm.eq_of_pairwise (fun a b _ _ hab hba => eq_of_isLE hab.1 hba.1) (hstrict xs)
      (hstrict ys) ?_
    refine (List.perm_ext_iff_of_nodup ((hstrict xs).imp And.right)
      ((hstrict ys).imp And.right)).mpr ?_
    intro a
    rw [hmem, hmem, h]

end Canonical

theorem isLE_compare_text (a b : String) : (compare a b).isLE = decide (a ≤ b) := by
  rw [Bool.eq_iff_iff, decide_eq_true_iff]
  exact isLE_compareOfLessAndEq String.le_antisymm String.not_le String.le_total

theorem distinctTexts_eq_iff (xs ys : List String) :
    distinctTexts xs = distinctTexts ys ↔ ∀ text, text ∈ xs ↔ text ∈ ys := by
  simp only [distinctTexts, sortTexts, ← isLE_compare_text]
  exact eraseReps_mergeSort_eq_iff xs ys

end CloudInventory
