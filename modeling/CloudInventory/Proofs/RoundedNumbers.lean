import CloudInventory.Binary64.Rounding
import Mathlib.Data.Nat.Log
import Mathlib.Tactic.Ring
import Mathlib.Tactic.SplitIfs

/-!
Rounding keeps the order of whole numbers: the greater of two never becomes the less. Up to `2 ^ 53`
none is rounded; beyond it several become the same number.
-/
namespace CloudInventory

/-! ### Quotients -/

theorem div_le_divideToNearest (tie : Tie) (num den : Nat) :
    num / den ≤ divideToNearest tie num den := by
  simp only [divideToNearest]
  split_ifs <;> omega

theorem divideToNearest_le (tie : Tie) (num den : Nat) :
    divideToNearest tie num den ≤ num / den + 1 := by
  simp only [divideToNearest]
  split_ifs <;> omega

theorem divideToNearest_mono (tie : Tie) (den : Nat) {m n : Nat} (h : m ≤ n) :
    divideToNearest tie m den ≤ divideToNearest tie n den := by
  rcases Nat.lt_or_eq_of_le (Nat.div_le_div_right h : m / den ≤ n / den) with hless | hsame
  · calc divideToNearest tie m den ≤ m / den + 1 := divideToNearest_le tie m den
      _ ≤ n / den := hless
      _ ≤ divideToNearest tie n den := div_le_divideToNearest tie n den
  · have hm := Nat.div_add_mod m den
    have hn := Nat.div_add_mod n den
    rw [hsame] at hm
    have hrest : m % den ≤ n % den := by omega
    simp only [divideToNearest, hsame]
    split_ifs <;> omega

/-- What can be divided is not rounded. -/
theorem divideToNearest_mul (tie : Tie) (q : Nat) {den : Nat} (h : 0 < den) :
    divideToNearest tie (q * den) den = q := by
  simp [divideToNearest, h]

namespace Binary64

/-! ### The magnitude of a whole number -/

/-- A positive whole number in units of the last place. -/
def wholeUnits (n : Nat) : Nat :=
  divideToNearest .toEven (n * 2 ^ (52 - n.log2)) (2 ^ (n.log2 - 52))

/-- The magnitude of the number nearest to a whole number. -/
def wholeMagnitude (n : Nat) : Nat :=
  if n = 0 then 0
  else min (wholeUnits n + (n.log2 + 1022) * 2 ^ 52) infiniteMagnitude

theorem binaryOrder_one {n : Nat} (h : n ≠ 0) : binaryOrder n 1 = n.log2 := by
  have hle : 2 ^ n.log2 ≤ n := Nat.log2_self_le h
  have hone : Nat.log2 1 = 0 := by decide
  simp [binaryOrder, hone, Nat.not_lt.mpr hle]

theorem ofInt_eq (n : Int) : ofInt n = ofMagnitude (n < 0) (wholeMagnitude n.natAbs) := by
  by_cases hn : n.natAbs = 0
  · rw [ofInt, ofQuotient, if_pos hn, wholeMagnitude, if_pos hn]
  · have he : max ((n.natAbs.log2 : Int) - 52) (-1074) = n.natAbs.log2 - 52 := by omega
    have hup : (-((n.natAbs.log2 : Int) - 52)).toNat = 52 - n.natAbs.log2 := by omega
    have hdown : ((n.natAbs.log2 : Int) - 52).toNat = n.natAbs.log2 - 52 := by omega
    have hsteps : ((n.natAbs.log2 : Int) - 52 + 1074).toNat = n.natAbs.log2 + 1022 := by omega
    rw [ofInt, ofQuotient, if_neg hn, wholeMagnitude, if_neg hn, wholeUnits, binaryOrder_one hn]
    simp only [he, hup, hdown, hsteps, Nat.one_mul]
    rfl

theorem wholeMagnitude_le (n : Nat) : wholeMagnitude n ≤ infiniteMagnitude := by
  unfold wholeMagnitude
  split
  · exact Nat.zero_le _
  · exact Nat.min_le_right _ _

theorem place_ofMagnitude {negative : Bool} {m : Nat} (h : m ≤ infiniteMagnitude) :
    (ofMagnitude negative m).place = if negative then -(m : Int) else m := by
  have hm : m < 9223372036854775808 := Nat.lt_of_le_of_lt h (by decide)
  have hsign : Nat.pow 2 63 = 9223372036854775808 := by decide
  cases negative with
  | true =>
    have hbits : (ofMagnitude true m).bits.toNat = m + 9223372036854775808 :=
      UInt64.toNat_ofNat_of_lt' (by simp only [if_true, hsign, UInt64.size]; omega)
    have hnegative : (ofMagnitude true m).isNegative = true := by
      rw [isNegative, hbits, hsign]
      exact decide_eq_true (by omega)
    rw [place, if_pos hnegative, if_pos rfl, magnitude, hbits, hsign]
    omega
  | false =>
    have hbits : (ofMagnitude false m).bits.toNat = m :=
      UInt64.toNat_ofNat_of_lt' (by simp only [Bool.false_eq_true, if_false, UInt64.size]; omega)
    have hpositive : ¬ (ofMagnitude false m).isNegative = true := by
      rw [isNegative, hbits, hsign, decide_eq_true_eq]
      omega
    rw [place, if_neg hpositive, if_neg Bool.false_ne_true, magnitude, hbits, hsign]
    omega

theorem place_ofInt (n : Int) :
    (ofInt n).place =
      if n < 0 then -(wholeMagnitude n.natAbs : Int) else wholeMagnitude n.natAbs := by
  rw [ofInt_eq, place_ofMagnitude (wholeMagnitude_le _)]
  simp only [decide_eq_true_eq]

/-! ### Order -/

theorem log2_mono {m n : Nat} (h : m ≤ n) : m.log2 ≤ n.log2 := by
  rw [Nat.log2_eq_log_two, Nat.log2_eq_log_two]
  exact Nat.log_mono_right h

/-- Every positive whole number is brought to the same number of digits. -/
theorem wholeUnits_bounds {n : Nat} (h : n ≠ 0) :
    2 ^ 52 ≤ wholeUnits n ∧ wholeUnits n ≤ 2 ^ 53 := by
  have hlow : 2 ^ n.log2 ≤ n := Nat.log2_self_le h
  have hhigh : n < 2 ^ (n.log2 + 1) := Nat.lt_log2_self
  have hden : 0 < 2 ^ (n.log2 - 52) := Nat.two_pow_pos _
  have hscale : 2 ^ 52 * 2 ^ (n.log2 - 52) = 2 ^ n.log2 * 2 ^ (52 - n.log2) := by
    rw [← Nat.pow_add, ← Nat.pow_add]
    congr 1
    omega
  constructor
  · refine Nat.le_trans ?_ (div_le_divideToNearest _ _ _)
    refine (Nat.le_div_iff_mul_le hden).mpr ?_
    calc 2 ^ 52 * 2 ^ (n.log2 - 52) = 2 ^ n.log2 * 2 ^ (52 - n.log2) := hscale
      _ ≤ n * 2 ^ (52 - n.log2) := Nat.mul_le_mul_right _ hlow
  · refine Nat.le_trans (divideToNearest_le _ _ _) ?_
    refine (Nat.div_lt_iff_lt_mul hden).mpr ?_
    calc n * 2 ^ (52 - n.log2)
      _ < 2 ^ (n.log2 + 1) * 2 ^ (52 - n.log2) :=
          Nat.mul_lt_mul_of_pos_right hhigh (Nat.two_pow_pos _)
      _ = 2 * (2 ^ 52 * 2 ^ (n.log2 - 52)) := by rw [hscale]; ring
      _ = 2 ^ 53 * 2 ^ (n.log2 - 52) := by ring

theorem wholeUnits_mono {m n : Nat} (h : m ≤ n) (hlog : m.log2 = n.log2) :
    wholeUnits m ≤ wholeUnits n := by
  rw [wholeUnits, wholeUnits, hlog]
  exact divideToNearest_mono _ _ (Nat.mul_le_mul_right _ h)

/-- What has no more digits than there is room for is not rounded. -/
theorem wholeUnits_of_lt {n : Nat} (h : n < 2 ^ 53) :
    wholeUnits n = n * 2 ^ (52 - n.log2) := by
  have hlog : n.log2 ≤ 52 := by
    by_cases hn : n = 0
    · subst hn
      decide
    · exact Nat.le_of_lt_succ ((Nat.log2_lt hn).mpr h)
  have hden : 2 ^ (n.log2 - 52) = 1 := by rw [Nat.sub_eq_zero_of_le hlog, pow_zero]
  have hexact := divideToNearest_mul .toEven (n * 2 ^ (52 - n.log2)) Nat.one_pos
  rw [Nat.mul_one] at hexact
  rw [wholeUnits, hden, hexact]

/-- The greatest number of units that a smaller exponent has room for is one unit step higher. -/
theorem carry_le {m n : Nat} (hn : n ≠ 0) (h : m.log2 < n.log2) :
    2 ^ 53 + (m.log2 + 1022) * 2 ^ 52 ≤ wholeUnits n + (n.log2 + 1022) * 2 ^ 52 :=
  calc 2 ^ 53 + (m.log2 + 1022) * 2 ^ 52
    _ = 2 ^ 52 + (m.log2 + 1 + 1022) * 2 ^ 52 := by ring
    _ ≤ wholeUnits n + (n.log2 + 1022) * 2 ^ 52 :=
        Nat.add_le_add (wholeUnits_bounds hn).1 (Nat.mul_le_mul_right _ (Nat.add_le_add_right h _))

theorem wholeMagnitude_mono {m n : Nat} (h : m ≤ n) : wholeMagnitude m ≤ wholeMagnitude n := by
  by_cases hm : m = 0
  · rw [wholeMagnitude, if_pos hm]
    exact Nat.zero_le _
  · have hn : n ≠ 0 := by omega
    have hunits : wholeUnits m + (m.log2 + 1022) * 2 ^ 52 ≤
        wholeUnits n + (n.log2 + 1022) * 2 ^ 52 := by
      rcases Nat.lt_or_eq_of_le (log2_mono h) with hless | hsame
      · exact Nat.le_trans (Nat.add_le_add_right (wholeUnits_bounds hm).2 _) (carry_le hn hless)
      · rw [hsame]
        exact Nat.add_le_add_right (wholeUnits_mono h hsame) _
    rw [wholeMagnitude, if_neg hm, wholeMagnitude, if_neg hn]
    exact Nat.le_min.mpr ⟨Nat.le_trans (Nat.min_le_left _ _) hunits, Nat.min_le_right _ _⟩

theorem wholeUnits_lt {n : Nat} (hn : n ≠ 0) (h : n < 2 ^ 53) : wholeUnits n < 2 ^ 53 := by
  have hlog : n.log2 ≤ 52 := Nat.le_of_lt_succ ((Nat.log2_lt hn).mpr h)
  calc wholeUnits n = n * 2 ^ (52 - n.log2) := wholeUnits_of_lt h
    _ < 2 ^ (n.log2 + 1) * 2 ^ (52 - n.log2) :=
        Nat.mul_lt_mul_of_pos_right Nat.lt_log2_self (Nat.two_pow_pos _)
    _ = 2 ^ 53 := by rw [← pow_add]; congr 1; omega

/-- As long as the less of two numbers is not rounded, the other has a greater magnitude. -/
theorem wholeMagnitude_lt {m n : Nat} (h : m < n) (hm : m < 2 ^ 53) :
    wholeMagnitude m < wholeMagnitude n := by
  have hn : n ≠ 0 := by omega
  by_cases hzero : m = 0
  · have hunits : 0 < wholeUnits n := Nat.lt_of_lt_of_le (by decide) (wholeUnits_bounds hn).1
    rw [wholeMagnitude, if_pos hzero, wholeMagnitude, if_neg hn]
    exact Nat.lt_min.mpr ⟨Nat.add_pos_left hunits _, by decide⟩
  · have hlog : m.log2 ≤ 52 := Nat.le_of_lt_succ ((Nat.log2_lt hzero).mpr hm)
    have hunits : wholeUnits m + (m.log2 + 1022) * 2 ^ 52 <
        wholeUnits n + (n.log2 + 1022) * 2 ^ 52 := by
      rcases Nat.lt_or_eq_of_le (log2_mono (Nat.le_of_lt h)) with hless | hsame
      · exact Nat.lt_of_lt_of_le (Nat.add_lt_add_right (wholeUnits_lt hzero hm) _)
          (carry_le hn hless)
      · have hroom : n < 2 ^ 53 := (Nat.log2_lt hn).mp (hsame ▸ Nat.lt_succ_of_le hlog)
        rw [wholeUnits_of_lt hm, wholeUnits_of_lt hroom, hsame]
        exact Nat.add_lt_add_right (Nat.mul_lt_mul_of_pos_right h (Nat.two_pow_pos _)) _
    have hfinite : wholeUnits m + (m.log2 + 1022) * 2 ^ 52 < infiniteMagnitude :=
      calc wholeUnits m + (m.log2 + 1022) * 2 ^ 52
        _ < 2 ^ 53 + (52 + 1022) * 2 ^ 52 :=
            Nat.add_lt_add_of_lt_of_le (wholeUnits_lt hzero hm)
              (Nat.mul_le_mul_right _ (Nat.add_le_add_right hlog _))
        _ < infiniteMagnitude := by decide
    rw [wholeMagnitude, if_neg hzero, wholeMagnitude, if_neg hn]
    exact Nat.lt_of_le_of_lt (Nat.min_le_left _ _) (Nat.lt_min.mpr ⟨hunits, hfinite⟩)

/-! ### Places -/

theorem place_ofInt_mono {m n : Int} (h : m ≤ n) : (ofInt m).place ≤ (ofInt n).place := by
  rw [place_ofInt, place_ofInt]
  split
  case isTrue hm =>
    split
    case isTrue hn =>
      have hle : wholeMagnitude n.natAbs ≤ wholeMagnitude m.natAbs :=
        wholeMagnitude_mono (by omega)
      omega
    case isFalse hn => omega
  case isFalse hm =>
    have hle : wholeMagnitude m.natAbs ≤ wholeMagnitude n.natAbs := wholeMagnitude_mono (by omega)
    rw [if_neg (by omega)]
    omega

theorem wholeMagnitude_pos {n : Nat} (h : 0 < n) : 0 < wholeMagnitude n :=
  wholeMagnitude_lt h (by decide)

theorem place_ofInt_lt {m n : Int} (h : m < n) (hm : m.natAbs ≤ 2 ^ 53) (hn : n.natAbs ≤ 2 ^ 53) :
    (ofInt m).place < (ofInt n).place := by
  rw [place_ofInt, place_ofInt]
  split
  case isTrue hmneg =>
    split
    case isTrue hnneg =>
      have hlt : wholeMagnitude n.natAbs < wholeMagnitude m.natAbs :=
        wholeMagnitude_lt (by omega) (by omega)
      omega
    case isFalse =>
      have hpos : 0 < wholeMagnitude m.natAbs := wholeMagnitude_pos (by omega)
      omega
  case isFalse hmpos =>
    have hlt : wholeMagnitude m.natAbs < wholeMagnitude n.natAbs :=
      wholeMagnitude_lt (by omega) (by omega)
    rw [if_neg (by omega)]
    omega

/-- Whole numbers of the same place are the same number once rounded. -/
theorem ofInt_eq_iff_place {m n : Int} : ofInt m = ofInt n ↔ (ofInt m).place = (ofInt n).place := by
  constructor
  · exact congrArg place
  · intro h
    -- the magnitude is zero only for zero, so that the signs are the same as well
    have hm : 0 < m.natAbs → 0 < wholeMagnitude m.natAbs := wholeMagnitude_pos
    have hn : 0 < n.natAbs → 0 < wholeMagnitude n.natAbs := wholeMagnitude_pos
    rw [place_ofInt, place_ofInt] at h
    have hsign : m < 0 ↔ n < 0 := by
      split at h <;> split at h <;> omega
    have hmagnitude : wholeMagnitude m.natAbs = wholeMagnitude n.natAbs := by
      split at h <;> split at h <;> omega
    rw [ofInt_eq, ofInt_eq, hmagnitude, decide_eq_decide.mpr hsign]

/-- Up to `2 ^ 53` different whole numbers stay different. -/
theorem ofInt_inj {m n : Int} (hm : m.natAbs ≤ 2 ^ 53) (hn : n.natAbs ≤ 2 ^ 53)
    (h : ofInt m = ofInt n) : m = n := by
  have hplace := ofInt_eq_iff_place.mp h
  rcases Int.lt_trichotomy m n with hless | hsame | hgreater
  · exact absurd hplace (Int.ne_of_lt (place_ofInt_lt hless hm hn))
  · exact hsame
  · exact absurd hplace.symm (Int.ne_of_lt (place_ofInt_lt hgreater hn hm))

end Binary64

end CloudInventory
