import CloudInventory.Version
import Mathlib.Data.List.DropRight

/-!
Versions are ordered as lists of numbers are once the zeros at their ends are left out.
-/
namespace CloudInventory.Version

/-- Components without the zeros at the end. -/
def trimmed : List UInt64 → List UInt64
  | [] => []
  | a :: rest => if a = 0 ∧ trimmed rest = [] then [] else a :: trimmed rest

theorem compare_zero_of_ne {a : UInt64} (h : a ≠ 0) : compare 0 a = .lt := by
  refine Std.compare_eq_lt.mpr (UInt64.lt_iff_toNat_lt.mpr (Nat.pos_of_ne_zero ?_))
  intro hzero
  exact h (UInt64.toNat_inj.mp hzero)

theorem compareLex_nil_trimmed {b : UInt64} {bs : List UInt64}
    (h : ¬ (b = 0 ∧ trimmed bs = [])) :
    (compare 0 b).then (List.compareLex compare [] (trimmed bs)) = .lt := by
  by_cases hb : b = 0
  · subst hb
    cases hbs : trimmed bs with
    | nil => exact absurd ⟨rfl, hbs⟩ h
    | cons c cs => rfl
  · rw [compare_zero_of_ne hb]
    rfl

theorem compareLex_trimmed_nil {a : UInt64} {as : List UInt64}
    (h : ¬ (a = 0 ∧ trimmed as = [])) :
    (compare a 0).then (List.compareLex compare (trimmed as) []) = .gt := by
  have hlists : List.compareLex compare (trimmed as) [] =
      (List.compareLex compare [] (trimmed as)).swap := Std.OrientedCmp.eq_swap
  rw [Std.OrientedOrd.eq_swap, hlists, ← Ordering.swap_then, compareLex_nil_trimmed h]
  rfl

theorem compareLex_trimmed_cons (a b : UInt64) (as bs : List UInt64) :
    List.compareLex compare (trimmed (a :: as)) (trimmed (b :: bs)) =
      (compare a b).then (List.compareLex compare (trimmed as) (trimmed bs)) := by
  simp only [trimmed]
  split
  case isTrue ha =>
    rw [ha.1, ha.2]
    split
    case isTrue hb =>
      rw [hb.1, hb.2]
      rfl
    case isFalse hb => exact (compareLex_nil_trimmed hb).symm
  case isFalse ha =>
    split
    case isTrue hb =>
      rw [hb.1, hb.2]
      exact (compareLex_trimmed_nil ha).symm
    case isFalse hb => exact List.compareLex_cons_cons

/-- A missing component counts as a zero at the end, so it can be left out on the other side. -/
theorem compareComponents_eq (as bs : List UInt64) :
    compareComponents as bs = List.compareLex compare (trimmed as) (trimmed bs) := by
  have hzero : trimmed [0] = trimmed [] := by decide
  fun_induction compareComponents as bs with
  | case1 => rfl
  | case2 a as ih => rw [← hzero, compareLex_trimmed_cons, ih]
  | case3 b bs ih => rw [← hzero, compareLex_trimmed_cons, ih]
  | case4 a as b bs ih => rw [compareLex_trimmed_cons, ih]

theorem before_eq : before = fun a b =>
    decide (List.compareLex compare (trimmed a.components) (trimmed b.components) = .lt) := by
  funext a b
  rw [before, cmp, compareComponents_eq]

instance : Std.TransCmp cmp where
  eq_swap := by
    intro a b
    simp only [cmp, compareComponents_eq]
    exact Std.OrientedCmp.eq_swap
  isLE_trans := by
    intro a b c hab hbc
    simp only [cmp, compareComponents_eq] at hab hbc ⊢
    exact Std.TransCmp.isLE_trans hab hbc

/-! ### Versions without the zeros at the end -/

/-- The components of a version without the zeros at the end. -/
def stripped (v : Version) : List UInt64 :=
  v.components.rdropWhile (· = 0)

theorem trimmed_eq_rdropWhile (cs : List UInt64) : trimmed cs = cs.rdropWhile (· = 0) := by
  induction cs with
  | nil => rfl
  | cons c rest ih =>
    rw [trimmed, ih, List.rdropWhile, List.rdropWhile, List.reverse_cons, List.dropWhile_append]
    cases rest.reverse.dropWhile (· = 0) with
    | nil => by_cases hc : c = 0 <;> simp [hc]
    | cons d ds => simp

theorem cmp_eq_compare (a b : Version) : a.cmp b = compare a.stripped b.stripped := by
  rw [cmp, compareComponents_eq, trimmed_eq_rdropWhile, trimmed_eq_rdropWhile]
  rfl

/-- Lists are compared by the first component that differs, and a list comes after those that it
goes on from. -/
theorem compare_eq_lt_iff (xs ys : List UInt64) : compare xs ys = .lt ↔ xs < ys := by
  induction xs generalizing ys with
  | nil => cases ys <;> simp [compare, List.compareLex]
  | cons x xs ih =>
    cases ys with
    | nil => simp [compare, List.compareLex]
    | cons y ys =>
      have hstep : compare (x :: xs) (y :: ys) = (compare x y).then (compare xs ys) :=
        List.compareLex_cons_cons
      rw [hstep, Ordering.then_eq_lt, Std.compare_eq_lt, Std.compare_eq_iff_eq, ih,
        List.cons_lt_cons_iff]

theorem cmp_swap (a b : Version) : b.cmp a = (a.cmp b).swap :=
  Std.OrientedCmp.eq_swap

/-- A comparison of versions by their components without the zeros at the end, together with an
equality, a comparison that may fail and an order that go by it. -/
structure Lexicographic (cmp : Version → Version → Ordering) (same before : Version → Version → Bool)
    (cmp? : Version → Version → Option Ordering) : Prop where
  eq_iff : ∀ a b, cmp a b = .eq ↔ a.stripped = b.stripped
  lt_iff : ∀ a b, cmp a b = .lt ↔ a.stripped < b.stripped
  gt_iff : ∀ a b, cmp a b = .gt ↔ b.stripped < a.stripped
  /-- Two versions of which neither is greater are the same but for the zeros at the end. -/
  antisymm : ∀ a b, (cmp a b).isLE = true → (cmp b a).isLE = true → a.stripped = b.stripped
  total : ∀ a b, (cmp a b).isLE = true ∨ (cmp b a).isLE = true
  trans : ∀ a b c, (cmp a b).isLE = true → (cmp b c).isLE = true → (cmp a c).isLE = true
  same_iff : ∀ a b, same a b = true ↔ a.stripped = b.stripped
  cmp?_eq : ∀ a b, cmp? a b = some (cmp a b)
  before_iff : ∀ a b, before a b = true ↔ cmp? b a = some .gt

/-- Versions are compared as the lists of their components are in which no zero stands at the end,
however long they are. -/
theorem cmp_lexicographic : Lexicographic cmp same before cmp? where
  eq_iff a b := by
    rw [cmp_eq_compare, Std.compare_eq_iff_eq]
  lt_iff a b := by
    rw [cmp_eq_compare, compare_eq_lt_iff]
  gt_iff a b := by
    rw [← compare_eq_lt_iff, ← cmp_eq_compare, cmp_swap a b, Ordering.swap_eq_lt]
  antisymm a b hab hba := by
    rw [← Std.compare_eq_iff_eq, ← cmp_eq_compare]
    exact Std.OrientedCmp.isLE_antisymm hab hba
  total a b := by
    rw [cmp_swap a b]
    cases a.cmp b <;> simp
  trans _ _ _ hab hbc := Std.TransCmp.isLE_trans hab hbc
  same_iff a b := by
    rw [same, decide_eq_true_eq, cmp_eq_compare, Std.compare_eq_iff_eq]
  cmp?_eq _ _ := rfl
  before_iff a b := by
    rw [before, decide_eq_true_eq, cmp?, Option.some.injEq, cmp_swap a b, Ordering.swap_eq_gt]

end CloudInventory.Version
