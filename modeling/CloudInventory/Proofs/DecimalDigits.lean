import CloudInventory.Binary64.Decimal
import Mathlib.Algebra.Group.Nat.Defs
import Mathlib.Data.List.Infix

/-!
Runs of decimal digits. Each number is spelled by just one of them that has no needless zero in
front; with zeros in front up to a fixed length, numbers are in the order of their digits.
-/
namespace CloudInventory.Decimal

theorem ofDigits_append (cs : List Char) (c : Char) :
    ofDigits (cs ++ [c]) = 10 * ofDigits cs + (c.toNat - 48) := by
  simp [ofDigits]

theorem ofDigits_toDigits (n : Nat) : ofDigits (Nat.toDigits 10 n) = n :=
  Nat.ofDigitChars_ten_toDigits

theorem isDigit_of_mem_toDigits {n : Nat} : ∀ c ∈ Nat.toDigits 10 n, c.isDigit = true :=
  fun _ hc => Nat.isDigit_of_mem_toDigits (by decide) (by decide) hc

/-- A digit is that of its value. -/
theorem digit_eq {c : Char} (h : c.isDigit = true) :
    c.toNat - 48 < 10 ∧ (c.toNat - 48).digitChar = c := by
  rw [Char.isDigit_iff_toNat] at h
  have hlow : 48 ≤ c.toNat := h.1
  have hhigh : c.toNat ≤ 57 := h.2
  have hlt : c.toNat - 48 < 10 := by omega
  refine ⟨hlt, Char.toNat_inj.mp ?_⟩
  rw [Nat.toNat_digitChar_of_lt_ten hlt]
  omega

/-- Only the digits of zero begin with a zero. -/
theorem eq_zero_of_zero_prefix {n : Nat} (h : ['0'] <+: Nat.toDigits 10 n) : n = 0 := by
  induction n using Nat.strongRecOn with
  | ind n ih =>
    by_cases hsmall : n < 10
    · rw [Nat.toDigits_of_lt_base hsmall] at h
      obtain ⟨rest, hrest⟩ := h
      have hhead := (List.cons.inj hrest).1
      exact Nat.zero_eq_digitChar.mp hhead
    · rw [Nat.toDigits_of_base_le (by decide) (by omega)] at h
      have hshorter : ['0'] <+: Nat.toDigits 10 (n / 10) :=
        List.prefix_of_prefix_length_le h (List.prefix_append _ _) Nat.length_toDigits_pos
      have hzero := ih (n / 10) (by omega) hshorter
      omega

/-- A run of digits with no needless zero in front is that of its value. -/
theorem toDigits_ofDigits {cs : List Char} (hne : cs ≠ []) (hdigits : ∀ c ∈ cs, c.isDigit = true)
    (hlead : ['0'] <+: cs → cs = ['0']) : Nat.toDigits 10 (ofDigits cs) = cs := by
  induction cs using List.reverseRecOn with
  | nil => exact absurd rfl hne
  | append_singleton front c ih =>
    obtain ⟨hlt, hc⟩ := digit_eq (hdigits c (by simp))
    rw [ofDigits_append]
    by_cases hfront : front = []
    · have hone : 10 * ofDigits front + (c.toNat - 48) = c.toNat - 48 := by simp [hfront, ofDigits]
      rw [hone, Nat.toDigits_of_lt_base hlt, hc, hfront, List.nil_append]
    · have hnozero : ¬ ['0'] <+: front := by
        intro hzero
        have hsingle := hlead (hzero.trans (List.prefix_append _ _))
        have hlength := congrArg List.length hsingle
        have hpos := List.length_pos_of_ne_nil hfront
        simp only [List.length_append, List.length_singleton] at hlength
        omega
      have hspelled := ih hfront (fun d hd => hdigits d (by simp [hd])) (absurd · hnozero)
      have hpos : 0 < ofDigits front := by
        refine Nat.pos_of_ne_zero (fun hzero => hnozero ?_)
        rw [hzero] at hspelled
        rw [← hspelled]
        exact List.prefix_refl _
      rw [← Nat.toDigits_append_toDigits (by decide) hpos hlt, hspelled,
        Nat.toDigits_of_lt_base hlt, hc]

/-! ### Runs of a fixed length -/

/-- The last `width` digits of a number. -/
def fixed : Nat → Nat → List Char
  | 0, _ => []
  | width + 1, n => fixed width (n / 10) ++ [(n % 10).digitChar]

theorem length_fixed (width n : Nat) : (fixed width n).length = width := by
  induction width generalizing n with
  | zero => rfl
  | succ width ih => simp [fixed, ih]

theorem isDigit_of_mem_fixed {width n : Nat} : ∀ c ∈ fixed width n, c.isDigit = true := by
  induction width generalizing n with
  | zero => exact fun _ hc => nomatch hc
  | succ width ih =>
    intro c hc
    rcases List.mem_append.mp hc with hfront | hlast
    · exact ih c hfront
    · rw [List.mem_singleton.mp hlast, Nat.isDigit_digitChar, decide_eq_true_eq]
      exact Nat.mod_lt _ (by decide)

theorem ofDigits_fixed {width n : Nat} (h : n < 10 ^ width) : ofDigits (fixed width n) = n := by
  induction width generalizing n with
  | zero =>
    rw [Nat.pow_zero, Nat.lt_one_iff] at h
    rw [h]
    rfl
  | succ width ih =>
    have hfront : n / 10 < 10 ^ width := by
      rw [Nat.pow_succ] at h
      omega
    rw [fixed, ofDigits_append, ih hfront, Nat.toNat_digitChar_of_lt_ten (Nat.mod_lt _ (by decide))]
    omega

theorem digitChar_order {m n : Nat} (hm : m < 10) (hn : n < 10) :
    (m.digitChar < n.digitChar ↔ m < n) ∧ (m.digitChar = n.digitChar ↔ m = n) := by
  have hlt : m.digitChar < n.digitChar ↔ m.digitChar.toNat < n.digitChar.toNat := Iff.rfl
  rw [hlt, ← Char.toNat_inj, Nat.toNat_digitChar_of_lt_ten hm, Nat.toNat_digitChar_of_lt_ten hn]
  omega

/-- Numbers of one length are in the order of their digits. -/
theorem fixed_append_lt_iff {width m n : Nat} {cs ds : List Char}
    (hm : m < 10 ^ width) (hn : n < 10 ^ width) :
    fixed width m ++ cs < fixed width n ++ ds ↔ m < n ∨ m = n ∧ cs < ds := by
  induction width generalizing m n cs ds with
  | zero =>
    simp only [Nat.pow_zero, Nat.lt_one_iff] at hm hn
    simp [hm, hn, fixed]
  | succ width ih =>
    rw [Nat.pow_succ] at hm hn
    obtain ⟨hlt, heq⟩ := digitChar_order (m := m % 10) (n := n % 10) (Nat.mod_lt _ (by decide))
      (Nat.mod_lt _ (by decide))
    rw [fixed, fixed, List.append_assoc, List.append_assoc, ih (by omega) (by omega)]
    simp only [List.singleton_append, List.cons_lt_cons_iff, hlt, heq]
    by_cases hrest : cs < ds <;> simp only [hrest, and_true, and_false, or_false] <;> omega

end CloudInventory.Decimal
