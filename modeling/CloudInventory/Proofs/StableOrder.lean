import CloudInventory.Fixture.Selection
import Mathlib.Order.Lattice

/-!
Sorting keeps every element, puts the elements in order, and leaves those of which none comes before
the other as they stood.
-/
namespace CloudInventory.Fixture

section

variable {β : Type} {before : β → β → Bool}

/-- The elements are inserted from the first to the last. -/
theorem sortStably_eq_foldr (before : β → β → Bool) (elements : List β) :
    sortStably before elements = (elements.reverse.foldr (insertLast before) []).reverse := by
  rw [sortStably, List.foldl_eq_foldr_reverse]

/-! ### Nothing is lost -/

theorem insertLast_perm (before : β → β → Bool) (a : β) (elements : List β) :
    (insertLast before a elements).Perm (a :: elements) := by
  induction elements with
  | nil => exact List.Perm.refl _
  | cons last rest ih =>
    rw [insertLast]
    split
    · exact (ih.cons last).trans (List.Perm.swap a last rest)
    · exact List.Perm.refl _

theorem foldr_insertLast_perm (before : β → β → Bool) (elements : List β) :
    (elements.foldr (insertLast before) []).Perm elements := by
  induction elements with
  | nil => exact List.Perm.refl _
  | cons a rest ih => exact (insertLast_perm before a _).trans (ih.cons a)

theorem sortStably_perm (before : β → β → Bool) (elements : List β) :
    (sortStably before elements).Perm elements := by
  rw [sortStably_eq_foldr]
  exact (List.reverse_perm _).trans ((foldr_insertLast_perm before _).trans (List.reverse_perm _))

/-! ### What is not ordered stays as it is -/

theorem filter_insertLast {p : β → Bool} {a : β} {elements : List β}
    (h : ∀ b ∈ elements, p a = true → p b = true → before a b = false) :
    (insertLast before a elements).filter p = (a :: elements).filter p := by
  induction elements with
  | nil => rfl
  | cons last rest ih =>
    obtain ⟨hlast, hrest⟩ := List.forall_mem_cons.mp h
    rw [insertLast]
    split
    case isFalse => rfl
    case isTrue hbefore =>
      -- one of the two that change places is dropped
      rw [List.filter_cons, ih hrest, List.filter_cons, List.filter_cons, List.filter_cons]
      by_cases ha : p a = true
      · have hdropped : ¬ p last = true := by
          intro hp
          rw [hlast ha hp] at hbefore
          cases hbefore
        simp only [if_neg hdropped]
      · simp only [if_neg ha]

theorem filter_foldr_insertLast {p : β → Bool} {elements : List β}
    (h : ∀ a ∈ elements, ∀ b ∈ elements, p a = true → p b = true → before a b = false) :
    (elements.foldr (insertLast before) []).filter p = elements.filter p := by
  induction elements with
  | nil => rfl
  | cons a rest ih =>
    have hrest := ih (fun x hx y hy =>
      h x (List.mem_cons_of_mem a hx) y (List.mem_cons_of_mem a hy))
    rw [List.foldr_cons, filter_insertLast, List.filter_cons, hrest, List.filter_cons]
    intro b hb
    exact h a List.mem_cons_self b
      (List.mem_cons_of_mem a ((foldr_insertLast_perm before rest).mem_iff.mp hb))

/-- Elements of which none comes before another are in the order in which they were. -/
theorem filter_sortStably {p : β → Bool} {elements : List β}
    (h : ∀ a ∈ elements, ∀ b ∈ elements, p a = true → p b = true → before a b = false) :
    (sortStably before elements).filter p = elements.filter p := by
  rw [sortStably_eq_foldr, List.filter_reverse, filter_foldr_insertLast, List.filter_reverse,
    List.reverse_reverse]
  simpa only [List.mem_reverse] using h

/-! ### Order -/

variable {κ : Type} [LinearOrder κ] {key : β → κ}

theorem pairwise_insertLast {a : β} {elements : List β}
    (hbefore : ∀ b ∈ elements, before a b = true ↔ key a < key b)
    (h : elements.Pairwise (fun x y => key y ≤ key x)) :
    (insertLast before a elements).Pairwise (fun x y => key y ≤ key x) := by
  induction elements with
  | nil => exact List.pairwise_singleton _ a
  | cons last rest ih =>
    obtain ⟨hlast, hrest⟩ := List.forall_mem_cons.mp hbefore
    obtain ⟨hle, hsorted⟩ := List.pairwise_cons.mp h
    rw [insertLast]
    split
    case isTrue hless =>
      refine List.pairwise_cons.mpr ⟨?_, ih hrest hsorted⟩
      intro b hb
      rcases List.mem_cons.mp ((insertLast_perm before a rest).mem_iff.mp hb) with rfl | hmem
      · exact le_of_lt (hlast.mp hless)
      · exact hle b hmem
    case isFalse hless =>
      have hfirst : key last ≤ key a := not_lt.mp (fun hlt => hless (hlast.mpr hlt))
      refine List.pairwise_cons.mpr ⟨?_, h⟩
      exact List.forall_mem_cons.mpr ⟨hfirst, fun b hb => le_trans (hle b hb) hfirst⟩

theorem pairwise_foldr_insertLast {elements : List β}
    (hbefore : ∀ a ∈ elements, ∀ b ∈ elements, before a b = true ↔ key a < key b) :
    (elements.foldr (insertLast before) []).Pairwise (fun x y => key y ≤ key x) := by
  induction elements with
  | nil => exact List.Pairwise.nil
  | cons a rest ih =>
    refine pairwise_insertLast ?_ (ih (fun x hx y hy =>
      hbefore x (List.mem_cons_of_mem a hx) y (List.mem_cons_of_mem a hy)))
    intro b hb
    exact hbefore a List.mem_cons_self b
      (List.mem_cons_of_mem a ((foldr_insertLast_perm before rest).mem_iff.mp hb))

/-- If one element comes before another just when its key is less, the keys do not decrease. -/
theorem pairwise_sortStably {elements : List β}
    (hbefore : ∀ a ∈ elements, ∀ b ∈ elements, before a b = true ↔ key a < key b) :
    (sortStably before elements).Pairwise (fun x y => key x ≤ key y) := by
  rw [sortStably_eq_foldr, List.pairwise_reverse]
  refine pairwise_foldr_insertLast ?_
  simpa only [List.mem_reverse] using hbefore

end

/-! ### What a key does not settle -/

section

variable {β κ : Type} [DecidableEq κ] {key : β → κ} {R : β → β → Prop}

theorem pairwise_same_key_iff {elements : List β} :
    elements.Pairwise (fun a b => key a = key b → R a b) ↔
      ∀ k, (elements.filter (fun a => key a = k)).Pairwise R := by
  simp only [List.pairwise_filter, decide_eq_true_eq]
  simp only [List.pairwise_iff_forall_sublist]
  constructor
  · intro h k a b hsublist ha hb
    exact h hsublist (ha.trans hb.symm)
  · intro h a b hsublist hsame
    exact h (key b) hsublist hsame rfl

/-- If different keys settle a relation, sorting brings it about just when it already holds between
elements of the same key. -/
theorem pairwise_iff_of_stable {sorted elements : List β}
    (hsorted : sorted.Pairwise (fun a b => key a ≠ key b → R a b))
    (hstable : ∀ k, sorted.filter (fun a => key a = k) = elements.filter (fun a => key a = k)) :
    sorted.Pairwise R ↔ elements.Pairwise (fun a b => key a = key b → R a b) := by
  have hsettled : sorted.Pairwise R ↔ sorted.Pairwise (fun a b => key a = key b → R a b) := by
    constructor
    · intro h
      refine h.imp ?_
      exact fun hR _ => hR
    · intro h
      refine (h.and hsorted).imp ?_
      intro a b hboth
      by_cases hkey : key a = key b
      · exact hboth.1 hkey
      · exact hboth.2 hkey
  rw [hsettled, pairwise_same_key_iff, pairwise_same_key_iff]
  simp only [hstable]

end

end CloudInventory.Fixture
