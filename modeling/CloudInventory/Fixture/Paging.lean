/-!
The arithmetic of pages. It is done in 64-bit words: an operation fails where its result would not
fit, and where a page begins is computed by operations that never do.
-/
namespace CloudInventory

namespace Word

def plus? (a b : UInt64) : Option UInt64 :=
  if a.toNat + b.toNat < UInt64.size then some (a + b) else none

def minus? (a b : UInt64) : Option UInt64 :=
  if b ≤ a then some (a - b) else none

def times? (a b : UInt64) : Option UInt64 :=
  if a.toNat * b.toNat < UInt64.size then some (a * b) else none

/-- A quotient, rounded up. -/
def over? (a b : UInt64) : Option UInt64 :=
  if b = 0 then none
  else if a % b = 0 then some (a / b)
  else plus? (a / b) 1

theorem plus?_eq_some {a b : UInt64} (h : a.toNat + b.toNat < UInt64.size) :
    ∃ c, plus? a b = some c ∧ c.toNat = a.toNat + b.toNat := by
  refine ⟨a + b, if_pos h, ?_⟩
  rw [UInt64.toNat_add, Nat.mod_eq_of_lt h]

theorem minus?_eq_some {a b : UInt64} (h : b ≤ a) :
    ∃ c, minus? a b = some c ∧ c.toNat = a.toNat - b.toNat :=
  ⟨a - b, if_pos h, UInt64.toNat_sub_of_le a b h⟩

theorem times?_eq_some {a b : UInt64} (h : a.toNat * b.toNat < UInt64.size) :
    ∃ c, times? a b = some c ∧ c.toNat = a.toNat * b.toNat := by
  refine ⟨a * b, if_pos h, ?_⟩
  rw [UInt64.toNat_mul, Nat.mod_eq_of_lt h]

/-- Only division by zero fails. -/
theorem over?_eq_some (a : UInt64) {b : UInt64} (h : 0 < b.toNat) :
    ∃ c, over? a b = some c ∧ c.toNat = (a.toNat + b.toNat - 1) / b.toNat := by
  have hne : b ≠ 0 := by
    rintro rfl
    exact Nat.lt_irrefl 0 h
  have hparts := Nat.div_add_mod a.toNat b.toNat
  have hrest := Nat.mod_lt a.toNat h
  have hzero : a % b = 0 ↔ a.toNat % b.toNat = 0 := by
    rw [← UInt64.toNat_inj, UInt64.toNat_mod]
    rfl
  have hrounded : (a.toNat + b.toNat - 1) / b.toNat =
      a.toNat / b.toNat + (a.toNat % b.toNat + b.toNat - 1) / b.toNat := by
    have hsum : a.toNat + b.toNat - 1 =
        (a.toNat % b.toNat + b.toNat - 1) + b.toNat * (a.toNat / b.toNat) := by omega
    rw [hsum, Nat.add_mul_div_left _ _ h, Nat.add_comm]
  rw [over?, if_neg hne, hrounded]
  by_cases hexact : a % b = 0
  · have hnone : (0 + b.toNat - 1) / b.toNat = 0 := Nat.div_eq_of_lt (by omega)
    exact ⟨a / b, if_pos hexact, by rw [hzero.mp hexact, hnone, UInt64.toNat_div, Nat.add_zero]⟩
  · have hsome : a.toNat % b.toNat ≠ 0 := fun heq => hexact (hzero.mpr heq)
    have hone : (a.toNat % b.toNat + b.toNat - 1) / b.toNat = 1 :=
      Nat.div_eq_of_lt_le (by omega) (by omega)
    have hfits : (a / b).toNat + (1 : UInt64).toNat < UInt64.size := by
      have ha := a.toNat_lt_size
      have hle : a.toNat / b.toNat ≤ b.toNat * (a.toNat / b.toNat) := Nat.le_mul_of_pos_left _ h
      rw [UInt64.toNat_div, UInt64.toNat_one]
      omega
    rw [if_neg hexact, hone, ← UInt64.toNat_div]
    exact plus?_eq_some hfits

/-- A word that is kept from being zero. -/
theorem toNat_max_one (a : UInt64) : (max a 1).toNat = max a.toNat 1 := by
  change (if a ≤ 1 then 1 else a).toNat = if a.toNat ≤ 1 then 1 else a.toNat
  exact apply_ite UInt64.toNat _ _ _

theorem toNat_toUInt64_max_one (a : UInt32) : (max a 1).toUInt64.toNat = max a.toNat 1 := by
  change (if a ≤ 1 then 1 else a).toNat = if a.toNat ≤ 1 then 1 else a.toNat
  exact apply_ite UInt32.toNat _ _ _

end Word

namespace Fixture

/-- How many pages a list of so many items has, and how many items come before a page. A page holds
at least one item, and a list has at least one page; there is no page before the first. -/
def cut? (page pageSize : UInt32) (count : UInt64) : Option (UInt64 × UInt64) := do
  let size := (max pageSize 1).toUInt64
  let pages ← Word.over? count size
  let before ← Word.minus? (max page 1).toUInt64 1
  let start ← Word.times? before size
  pure (max pages 1, start)

/-- Nothing overflows, and the words are the numbers meant. -/
theorem cut?_eq_some (page pageSize : UInt32) (count : UInt64) :
    ∃ pages start, cut? page pageSize count = some (pages, start) ∧
      pages.toNat =
        max ((count.toNat + max pageSize.toNat 1 - 1) / max pageSize.toNat 1) 1 ∧
      start.toNat = (max page.toNat 1 - 1) * max pageSize.toNat 1 := by
  have hsize := Word.toNat_toUInt64_max_one pageSize
  have hpage := Word.toNat_toUInt64_max_one page
  obtain ⟨pages, hpages, hpagesNat⟩ := Word.over?_eq_some count
    (b := (max pageSize 1).toUInt64) (by omega)
  obtain ⟨before, hbefore, hbeforeNat⟩ := Word.minus?_eq_some (a := (max page 1).toUInt64) (b := 1)
    (by rw [UInt64.le_iff_toNat_le, UInt64.toNat_one]; omega)
  rw [hpage, UInt64.toNat_one] at hbeforeNat
  have hfits : before.toNat * (max pageSize 1).toUInt64.toNat < UInt64.size := by
    have hpageLt := page.toNat_lt_size
    have hsizeLt := pageSize.toNat_lt_size
    calc before.toNat * (max pageSize 1).toUInt64.toNat
        < UInt32.size * UInt32.size :=
          Nat.mul_lt_mul'' (by simp only [UInt32.size] at *; omega)
            (by simp only [UInt32.size] at *; omega)
      _ = UInt64.size := by decide
  obtain ⟨start, hstart, hstartNat⟩ := Word.times?_eq_some hfits
  refine ⟨max pages 1, start, ?_, ?_, ?_⟩
  · simp only [cut?, hpages, hbefore, hstart, Option.bind_eq_bind, Option.bind_some]
    rfl
  · rw [Word.toNat_max_one, hpagesNat, hsize]
  · rw [hstartNat, hbeforeNat, hsize]

theorem isSome_cut? (page pageSize : UInt32) (count : UInt64) :
    (cut? page pageSize count).isSome = true := by
  obtain ⟨pages, start, hcut, -⟩ := cut?_eq_some page pageSize count
  rw [hcut, Option.isSome_some]

/-- The number of pages and the items before a page, which are always defined. -/
def cut (page pageSize : UInt32) (count : UInt64) : UInt64 × UInt64 :=
  (cut? page pageSize count).get (isSome_cut? page pageSize count)

theorem cut?_eq_cut (page pageSize : UInt32) (count : UInt64) :
    cut? page pageSize count = some (cut page pageSize count) :=
  (Option.some_get _).symm

theorem toNat_cut (page pageSize : UInt32) (count : UInt64) :
    (cut page pageSize count).1.toNat =
        max ((count.toNat + max pageSize.toNat 1 - 1) / max pageSize.toNat 1) 1 ∧
      (cut page pageSize count).2.toNat = (max page.toNat 1 - 1) * max pageSize.toNat 1 := by
  obtain ⟨pages, start, hcut, hpages, hstart⟩ := cut?_eq_some page pageSize count
  rw [cut?_eq_cut, Option.some.injEq] at hcut
  rw [hcut]
  exact ⟨hpages, hstart⟩

end Fixture

end CloudInventory
