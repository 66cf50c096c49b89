import Mathlib.Data.String.Basic
import Mathlib.Tactic.SplitIfs

/-!
Texts are in the order of their bytes. A character is written as a first byte, which tells how many
groups of six bits follow, and the groups from the highest.
-/
namespace CloudInventory.Text

/-- The lowest groups of six bits of a code point, each with the mark of a byte that goes on. -/
def groups (v : Nat) : Nat → List UInt8
  | 0 => []
  | count + 1 => UInt8.ofNat (v / 64 ^ count % 64 + 128) :: groups v count

/-- How many groups follow the first byte of a code point. -/
def groupCount (v : Nat) : Nat :=
  if v ≤ 127 then 0 else if v ≤ 2047 then 1 else if v ≤ 65535 then 2 else 3

/-- The first byte of a code point: what the groups leave over, above the mark of their number. -/
def firstByte (v : Nat) : Nat :=
  if v ≤ 127 then v
  else if v ≤ 2047 then v / 64 + 192
  else if v ≤ 65535 then v / 4096 + 224
  else v / 262144 + 240

theorem toNat_lt (c : Char) : c.toNat < 1114112 := by
  have hvalid : c.toNat < 55296 ∨ 57343 < c.toNat ∧ c.toNat < 1114112 := c.valid
  omega

theorem utf8EncodeChar_eq (c : Char) :
    String.utf8EncodeChar c =
      UInt8.ofNat (firstByte c.toNat) :: groups c.toNat (groupCount c.toNat) := by
  have hlt := toNat_lt c
  have hval : c.val.toNat = c.toNat := rfl
  simp only [String.utf8EncodeChar, firstByte, groupCount, hval]
  split_ifs with hone htwo hthree
  · rfl
  · have hfirst : c.toNat / 64 % 32 = c.toNat / 64 := Nat.mod_eq_of_lt (by omega)
    simp only [hfirst, groups, Nat.pow_zero, Nat.div_one]
  · have hfirst : c.toNat / 4096 % 16 = c.toNat / 4096 := Nat.mod_eq_of_lt (by omega)
    simp only [hfirst, groups, Nat.pow_zero, Nat.pow_one, Nat.div_one]
  · have hfirst : c.toNat / 262144 % 8 = c.toNat / 262144 := Nat.mod_eq_of_lt (by omega)
    simp only [hfirst, groups, Nat.pow_zero, Nat.pow_one, Nat.div_one, Nat.reducePow]

theorem firstByte_lt {v : Nat} (h : v < 1114112) : firstByte v < 256 := by
  unfold firstByte
  split_ifs <;> omega

/-- The first byte of a greater code point is greater, or it is followed by as many groups that
have no part in the difference. -/
theorem firstByte_mono {v w : Nat} (h : v < w) (hw : w < 1114112) :
    firstByte v < firstByte w ∨ firstByte v = firstByte w ∧ groupCount v = groupCount w ∧
      v / 64 ^ groupCount v = w / 64 ^ groupCount v := by
  unfold firstByte groupCount
  split_ifs <;> omega

theorem ofNat_le {m n : Nat} (h : m ≤ n) (hn : n < 256) : UInt8.ofNat m ≤ UInt8.ofNat n := by
  rw [UInt8.le_iff_toNat_le, UInt8.toNat_ofNat_of_lt' (Nat.lt_of_le_of_lt h hn),
    UInt8.toNat_ofNat_of_lt' hn]
  exact h

theorem ofNat_lt {m n : Nat} (h : m < n) (hn : n < 256) : UInt8.ofNat m < UInt8.ofNat n := by
  rw [UInt8.lt_iff_toNat_lt, UInt8.toNat_ofNat_of_lt' (Nat.lt_trans h hn),
    UInt8.toNat_ofNat_of_lt' hn]
  exact h

theorem le_of_mem_groups {v count : Nat} {b : UInt8} (hb : b ∈ groups v count) : 128 ≤ b := by
  induction count with
  | zero => cases hb
  | succ count ih =>
    rcases List.mem_cons.mp hb with rfl | hrest
    · exact ofNat_le (by omega : 128 ≤ _) (by omega)
    · exact ih hrest

/-- No byte of a character beyond the first 128 stands for one of these. -/
theorem le_of_mem_utf8EncodeChar {c : Char} (h : 127 < c.toNat) {b : UInt8}
    (hb : b ∈ String.utf8EncodeChar c) : 128 ≤ b := by
  rw [utf8EncodeChar_eq, List.mem_cons] at hb
  rcases hb with rfl | hgroups
  · refine ofNat_le (?_ : 128 ≤ _) (firstByte_lt (toNat_lt c))
    unfold firstByte
    split_ifs <;> omega
  · exact le_of_mem_groups hgroups

theorem groups_lt {v w : Nat} (h : v < w) {count : Nat} (hsame : v / 64 ^ count = w / 64 ^ count)
    (rest others : List UInt8) : groups v count ++ rest < groups w count ++ others := by
  induction count with
  | zero =>
    rw [Nat.pow_zero, Nat.div_one, Nat.div_one] at hsame
    exact absurd hsame (Nat.ne_of_lt h)
  | succ count ih =>
    rw [groups, groups, List.cons_append, List.cons_append, List.cons_lt_cons_iff]
    have hle : v / 64 ^ count ≤ w / 64 ^ count := Nat.div_le_div_right (Nat.le_of_lt h)
    rcases Nat.lt_or_eq_of_le hle with hless | heq
    · left
      rw [Nat.pow_succ, ← Nat.div_div_eq_div_mul, ← Nat.div_div_eq_div_mul] at hsame
      exact ofNat_lt (by omega) (by omega)
    · exact .inr ⟨by rw [heq], ih heq⟩

/-! ### Texts -/

theorem utf8EncodeChar_lt {c d : Char} (h : c < d) (rest others : List UInt8) :
    String.utf8EncodeChar c ++ rest < String.utf8EncodeChar d ++ others := by
  rw [utf8EncodeChar_eq, utf8EncodeChar_eq, List.cons_append, List.cons_append,
    List.cons_lt_cons_iff]
  have hlt : c.toNat < d.toNat := h
  rcases firstByte_mono hlt (toNat_lt d) with hless | ⟨hfirst, hcount, hsame⟩
  · exact .inl (ofNat_lt hless (firstByte_lt (toNat_lt d)))
  · rw [hfirst, ← hcount]
    exact .inr ⟨rfl, groups_lt hlt hsame rest others⟩

theorem flatMap_utf8EncodeChar_lt {cs ds : List Char} (h : cs < ds) :
    cs.flatMap String.utf8EncodeChar < ds.flatMap String.utf8EncodeChar := by
  induction cs generalizing ds with
  | nil =>
    cases ds with
    | nil => exact absurd h (List.lt_irrefl [])
    | cons d ds =>
      rw [List.flatMap_nil, List.flatMap_cons, utf8EncodeChar_eq, List.cons_append]
      exact List.nil_lt_cons _ _
  | cons c cs ih =>
    cases ds with
    | nil => exact absurd h (List.not_lt_nil _)
    | cons d ds =>
      rw [List.flatMap_cons, List.flatMap_cons]
      rcases List.cons_lt_cons_iff.mp h with hless | ⟨rfl, hrest⟩
      · exact utf8EncodeChar_lt hless _ _
      · exact List.append_left_lt (ih hrest)

theorem toUTF8_eq_flatMap (s : String) :
    s.toUTF8.data.toList = s.toList.flatMap String.utf8EncodeChar := by
  rw [← String.ofList_toList (s := s), String.toUTF8, String.toByteArray_ofList, List.utf8Encode,
    List.data_toByteArray, String.toList_ofList]

/-- Bytes are in the order of the characters. -/
theorem bytes_lt_iff {s t : String} : s.toUTF8.data.toList < t.toUTF8.data.toList ↔ s < t := by
  have hbytes : ∀ {x y : String}, x < y → x.toUTF8.data.toList < y.toUTF8.data.toList := by
    intro x y h
    rw [toUTF8_eq_flatMap, toUTF8_eq_flatMap]
    exact flatMap_utf8EncodeChar_lt h
  constructor
  · intro h
    rcases lt_trichotomy s t with hless | rfl | hgreater
    · exact hless
    · exact absurd h (List.lt_irrefl _)
    · exact absurd h (List.lt_asymm (hbytes hgreater))
  · exact hbytes

end CloudInventory.Text
