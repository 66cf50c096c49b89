import CloudInventory.Text.Hex

/-!
A number in hexadecimal digits is read back as itself, with however many zeros in front.
-/
namespace CloudInventory.Text

theorem hexDigit?_digitChar : ∀ n < 16, hexDigit? n.digitChar = some n := by
  decide

/-- Digits that are read one after another, the value so far put in front of each. -/
def readOn (start : Nat) (cs : List Char) : Option Nat :=
  cs.foldlM (fun n c => (hexDigit? c).map (16 * n + ·)) start

theorem readOn_append (start : Nat) (cs rest : List Char) :
    readOn start (cs ++ rest) = (readOn start cs).bind (readOn · rest) := by
  simp [readOn, List.foldlM_append]

theorem readOn_digitChar (start : Nat) {n : Nat} (h : n < 16) :
    readOn start [n.digitChar] = some (16 * start + n) := by
  simp [readOn, hexDigit?_digitChar n h]

/-- The digits of a number are read as that number. -/
theorem readOn_hexDigits (n : Nat) : readOn 0 (hexDigits n) = some n := by
  induction n using Nat.strongRecOn with
  | ind n ih =>
    by_cases hsmall : n < 16
    · rw [hexDigits, Nat.toDigits_of_lt_base hsmall, readOn_digitChar 0 hsmall, Nat.mul_zero,
        Nat.zero_add]
    · have hhigh : readOn 0 (hexDigits (n / 16)) = some (n / 16) := ih (n / 16) (by omega)
      rw [hexDigits, Nat.toDigits_of_base_le (by decide) (by omega), readOn_append]
      rw [hexDigits] at hhigh
      rw [hhigh, Option.bind_some, readOn_digitChar _ (Nat.mod_lt n (by decide)), Nat.div_add_mod]

theorem readOn_zeros (count : Nat) : readOn 0 (List.replicate count '0') = some 0 := by
  induction count with
  | zero => rfl
  | succ count ih =>
    have hzero : readOn 0 ['0'] = some 0 := by decide
    rw [List.replicate_succ, ← List.singleton_append, readOn_append, hzero]
    exact ih

theorem hexValue?_hexPadded (width n : Nat) : hexValue? (hexPadded width n) = some n := by
  have hread : readOn 0 (hexPadded width n) = some n := by
    rw [hexPadded, readOn_append, readOn_zeros, Option.bind_some, readOn_hexDigits]
  exact hread

theorem hexPadded_inj {width m n : Nat} (h : hexPadded width m = hexPadded width n) : m = n := by
  have hvalue := congrArg hexValue? h
  rw [hexValue?_hexPadded, hexValue?_hexPadded] at hvalue
  exact Option.some.inj hvalue

/-- A number that fits has just as many digits as asked for. -/
theorem length_hexPadded {width n : Nat} (hpos : 0 < width) (h : n < Nat.pow 16 width) :
    (hexPadded width n).length = width := by
  have hfits : (hexDigits n).length ≤ width :=
    (Nat.length_toDigits_le_iff (by decide) hpos).mpr h
  rw [hexPadded, List.length_append, List.length_replicate]
  omega

end CloudInventory.Text
