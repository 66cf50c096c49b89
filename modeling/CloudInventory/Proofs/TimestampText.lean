import CloudInventory.Filter.Latest
import CloudInventory.Proofs.ByteOrder
import CloudInventory.Proofs.CalendarOrder
import CloudInventory.Proofs.DecimalDigits
import Mathlib.Data.List.TakeWhile

/-!
Timestamps as they are usually written, with each number at its full length. Such a text can be read
with a zone offset after it or without one, and without one it is in the order of its instant.
-/
namespace CloudInventory.Time

/-! ### Fronts of a text -/

section Fronts

variable {lo hi n : Nat} {rest : List Char}

theorem isBlank_digit {c : Char} (h : c.isDigit = true) : Text.isBlank c = false := by
  obtain ⟨hlt, hc⟩ := Decimal.digit_eq h
  have hdigits : ∀ n < 10, Text.isBlank n.digitChar = false := by decide
  rw [← hc]
  exact hdigits _ hlt

theorem scanNumber_fixed {min width : Nat} (hmin : min ≤ width) (hn : n < 10 ^ width)
    (hfits : 10 ^ width ≤ 2 ^ 63) :
    scanNumber min width (Decimal.fixed width n ++ rest) = .ok (n, rest) := by
  have hlength := Decimal.length_fixed width n
  have hdigits : ((Decimal.fixed width n ++ rest).take width).takeWhile Char.isDigit =
      Decimal.fixed width n := by
    rw [List.take_left' hlength]
    exact List.takeWhile_eq_self_iff.mpr Decimal.isDigit_of_mem_fixed
  have hlong : ¬ (Decimal.fixed width n ++ rest).length < min := by
    rw [List.length_append]
    omega
  have henough : ¬ (Decimal.fixed width n).length < min := by omega
  have hsmall : ¬ Nat.pow 2 63 ≤ n := Nat.not_le_of_lt (Nat.lt_of_lt_of_le hn hfits)
  simp only [scanNumber, hdigits, Decimal.ofDigits_fixed hn, if_neg hlong, if_neg henough,
    if_neg hsmall, List.drop_left]

theorem checked_ok {scan : Scan Int} {cs : List Char} (h : scan cs = .ok (n, rest)) (hlo : lo ≤ n)
    (hhi : n ≤ hi) : checked lo hi scan cs = .ok (n, rest) := by
  have hbounds : (lo : Int) ≤ n ∧ (n : Int) ≤ hi := by omega
  simp only [checked, h, bind, Except.bind, if_pos hbounds]
  rfl

theorem scanFixed_fixed {width : Nat} (hlo : lo ≤ n) (hhi : n ≤ hi) (hwidth : hi < 10 ^ width)
    (hfits : 10 ^ width ≤ 2 ^ 63) :
    scanFixed lo hi width (Decimal.fixed width n ++ rest) = .ok (n, rest) :=
  checked_ok (scanNumber_fixed (Nat.le_refl _) (Nat.lt_of_le_of_lt hhi hwidth) hfits) hlo hhi

theorem fixed_append_cons (width n : Nat) (rest : List Char) :
    ∃ c cs, Decimal.fixed (width + 1) n ++ rest = c :: cs ∧ c.isDigit = true := by
  have hlength := Decimal.length_fixed (width + 1) n
  have hdigits := @Decimal.isDigit_of_mem_fixed (width + 1) n
  cases hfixed : Decimal.fixed (width + 1) n with
  | nil => rw [hfixed] at hlength; cases hlength
  | cons c cs =>
    rw [hfixed] at hdigits
    exact ⟨c, cs ++ rest, rfl, hdigits c List.mem_cons_self⟩

/-- Digits come first, so there are no blanks to pass over. -/
theorem dropWhile_isBlank_fixed (width : Nat) :
    (Decimal.fixed (width + 1) n ++ rest).dropWhile Text.isBlank =
      Decimal.fixed (width + 1) n ++ rest := by
  obtain ⟨c, cs, hcons, hdigit⟩ := fixed_append_cons width n rest
  rw [hcons, List.dropWhile_cons_of_neg (by simp [isBlank_digit hdigit])]

theorem scanPadded_fixed (hlo : lo ≤ n) (hhi : n ≤ hi) (hwidth : hi < 10 ^ 2) :
    scanPadded lo hi (Decimal.fixed 2 n ++ rest) = .ok (n, rest) := by
  rw [scanPadded, dropWhile_isBlank_fixed]
  exact checked_ok (scanNumber_fixed (by decide) (Nat.lt_of_le_of_lt hhi hwidth) (by decide)) hlo
    hhi

theorem scanYear_fixed (hn : n < 10 ^ 4) :
    scanYear (Decimal.fixed 4 n ++ rest) = .ok (n, rest) := by
  have hnumber : scanNumber 1 4 (Decimal.fixed 4 n ++ rest) = .ok (n, rest) :=
    scanNumber_fixed (by decide) hn (by decide)
  have hrange : Int32.minValue.toInt ≤ (n : Int) ∧ (n : Int) ≤ Int32.maxValue.toInt := by
    have hmin : Int32.minValue.toInt = -2147483648 := by decide
    have hmax : Int32.maxValue.toInt = 2147483647 := by decide
    omega
  obtain ⟨c, cs, hcons, hdigit⟩ := fixed_append_cons 3 n rest
  rw [scanYear, dropWhile_isBlank_fixed]
  rw [hcons] at hnumber ⊢
  split
  case h_1 hminus =>
    rw [(List.cons.inj hminus).1] at hdigit
    exact absurd hdigit (by decide)
  case h_2 hplus =>
    rw [(List.cons.inj hplus).1] at hdigit
    exact absurd hdigit (by decide)
  case h_3 =>
    simp only [hnumber, bind, Except.bind, if_pos hrange]
    rfl

theorem scanChar_cons (c : Char) : scanChar c (c :: rest) = .ok ((), rest) :=
  if_pos rfl

theorem scanSeparator_cons : scanSeparator ('T' :: rest) = .ok ((), rest) :=
  rfl

theorem scanFraction_none (h : rest.head? ≠ some '.') : scanFraction rest = .ok (0, rest) := by
  unfold scanFraction
  split
  · exact absurd rfl h
  · rfl

end Fronts

/-! ### Dates and times at full length -/

/-- A second of the calendar whose year has four digits. -/
structure Civil.FourDigitYear (c : Civil) : Prop extends c.Plain where
  low : 0 ≤ c.year
  high : c.year ≤ 9999

/-- A number with zeros in front, up to a length. -/
def padded (width n : Nat) : String :=
  String.ofList (Decimal.fixed width n)

/-- The date and time of day without a zone offset. -/
def Civil.text (c : Civil) : String :=
  padded 4 c.year.toNat ++ "-" ++ padded 2 c.month ++ "-" ++ padded 2 c.day ++ "T" ++
    padded 2 c.hour ++ ":" ++ padded 2 c.minute ++ ":" ++ padded 2 c.second

/-- The characters of a date and time of day, and what follows them. -/
def Civil.spell (c : Civil) (rest : List Char) : List Char :=
  Decimal.fixed 4 c.year.toNat ++ '-' :: (Decimal.fixed 2 c.month ++ '-' ::
    (Decimal.fixed 2 c.day ++ 'T' :: (Decimal.fixed 2 c.hour ++ ':' ::
      (Decimal.fixed 2 c.minute ++ ':' :: (Decimal.fixed 2 c.second ++ rest)))))

/-- A zone, by its distance from Universal Time. -/
inductive Zone where
  | utc
  | ahead (hours minutes : Nat)
  | behind (hours minutes : Nat)

namespace Zone

def text : Zone → String
  | .utc => "Z"
  | .ahead hours minutes => "+" ++ padded 2 hours ++ ":" ++ padded 2 minutes
  | .behind hours minutes => "-" ++ padded 2 hours ++ ":" ++ padded 2 minutes

def seconds : Zone → Int
  | .utc => 0
  | .ahead hours minutes => hours * 3600 + minutes * 60
  | .behind hours minutes => -(hours * 3600 + minutes * 60)

/-- The zone is less than a day away. -/
def Valid : Zone → Prop
  | .utc => True
  | .ahead hours minutes | .behind hours minutes => hours ≤ 23 ∧ minutes ≤ 59

variable {zone : Zone}

theorem scanOffsetTime_fixed {hours minutes : Nat} (negative : Bool) (h : hours ≤ 23)
    (h' : minutes ≤ 59) :
    scanOffsetTime negative (Decimal.fixed 2 hours ++ ':' :: (Decimal.fixed 2 minutes ++ [])) =
      .ok (if negative then -(hours * 3600 + minutes * 60 : Int)
        else hours * 3600 + minutes * 60, []) := by
  simp (disch := omega) only [scanOffsetTime, scanFixed_fixed, scanChar_cons, bind, Except.bind]
  rfl

theorem scanOffset_text (h : zone.Valid) :
    scanOffset zone.text.toList = .ok (zone.seconds, []) := by
  cases zone with
  | utc => rfl
  | ahead hours minutes =>
    have htime := scanOffsetTime_fixed false h.1 h.2
    simp only [List.append_nil] at htime
    simp [text, padded, scanOffset, htime, seconds]
  | behind hours minutes =>
    have htime := scanOffsetTime_fixed true h.1 h.2
    simp only [List.append_nil] at htime
    simp [text, padded, scanOffset, htime, seconds]

theorem head?_text_ne : zone.text.toList.head? ≠ some '.' := by
  cases zone <;> simp [text]

end Zone

namespace Civil

variable {a b c : Civil} {rest : List Char}

theorem toList_text_append (s : String) : (c.text ++ s).toList = c.spell s.toList := by
  simp [text, spell, padded]

theorem text_eq (c : Civil) : c.text = String.ofList (c.spell []) := by
  rw [← String.toList_inj, String.toList_ofList, ← String.append_empty (s := c.text),
    toList_text_append, String.toList_empty]

theorem scanZoned_spell (h : c.FourDigitYear) (hrest : rest.head? ≠ some '.') :
    scanZoned (c.spell rest) = (do
      let (offset, rest) ← scanOffset rest
      pure ((c, offset), rest)) := by
  obtain ⟨⟨⟨hmonth, hmonth', hday, hdays⟩, hhour, hminute, hsecond, hnanos⟩, hlow, hhigh⟩ := h
  have hday' : c.day ≤ 31 := by omega
  have hyear : (c.year.toNat : Int) = c.year := Int.toNat_of_nonneg hlow
  simp (disch := omega) only [scanZoned, spell, scanFixed_fixed, scanChar_cons,
    scanSeparator_cons, scanFraction_none hrest, hyear, ← hnanos, bind, Except.bind]

theorem scanLocal_spell (h : c.FourDigitYear) : scanLocal (c.spell []) = .ok (c, []) := by
  obtain ⟨⟨⟨hmonth, hmonth', hday, hdays⟩, hhour, hminute, hsecond, hnanos⟩, hlow, hhigh⟩ := h
  have hday' : c.day ≤ 31 := by omega
  have hyear : (c.year.toNat : Int) = c.year := Int.toNat_of_nonneg hlow
  have hend : scanFraction [] = .ok (0, []) := rfl
  simp (disch := omega) only [scanLocal, spell, scanYear_fixed, scanPadded_fixed, scanChar_cons,
    hend, hyear, ← hnanos, bind, Except.bind]
  rfl

theorem FourDigitYear.isDate (h : c.FourDigitYear) : c.isDate = true := by
  obtain ⟨hplain, hlow, hhigh⟩ := h
  have hrange : yearInRange c.year = true := by
    simp only [yearInRange, Bool.and_eq_true, decide_eq_true_eq]
    omega
  exact isDate_iff.mpr ⟨hrange, hplain.date⟩

/-- With a zone offset the text is in the strict form. -/
theorem parse_zoned (h : c.FourDigitYear) {zone : Zone} (hzone : zone.Valid) :
    parse (c.text ++ zone.text) = .ok (c.toInstant zone.seconds) := by
  have hscan : scanZoned (c.text ++ zone.text).toList = .ok ((c, zone.seconds), []) := by
    rw [toList_text_append, scanZoned_spell h Zone.head?_text_ne, Zone.scanOffset_text hzone]
    rfl
  simp only [parse, zonedInstant?, hscan, h.isDate, if_true]

/-- Without one it is not, and is read in the lenient form. -/
theorem parse_text (h : c.FourDigitYear) : parse c.text = .ok (c.toInstant 0) := by
  have htext : c.text.toList = c.spell [] := by rw [text_eq, String.toList_ofList]
  have hstrict : scanZoned (c.spell []) = .error .tooShort := by
    rw [scanZoned_spell h (by simp)]
    rfl
  have hlenient : localInstant c.text = .ok (c.toInstant 0) := by
    simp [localInstant, htext, scanLocal_spell h, h.isDate, bind, Except.bind]
  simp [parse, zonedInstant?, htext, hstrict, hlenient]

/-! ### Texts in order -/

/-- Dates and times of day are in the order of their characters. -/
theorem spell_lt_iff (ha : a.FourDigitYear) (hb : b.FourDigitYear) :
    a.spell [] < b.spell [] ↔ a.Earlier b := by
  obtain ⟨⟨⟨-, hmonth, -, hdays⟩, hhour, hminute, hsecond, -⟩, hlow, hhigh⟩ := ha
  obtain ⟨⟨⟨-, hmonth', -, hdays'⟩, hhour', hminute', hsecond', -⟩, hlow', hhigh'⟩ := hb
  simp (disch := omega) only [spell, Decimal.fixed_append_lt_iff, List.cons_lt_cons_iff,
    Char.lt_irrefl, true_and, false_or, List.lt_irrefl, and_false, or_false]
  unfold Earlier
  omega

end Civil

end CloudInventory.Time

namespace CloudInventory.LatestKey

open Time

/-- Instants are in the order of the texts, to the next second of the calendar it is one second, and
a zone offset after the text is taken off. -/
theorem parseTimestamp_ordered_like_text {a b : Civil} (ha : a.FourDigitYear)
    (hb : b.FourDigitYear) :
    ∃ x y, parseTimestamp a.text = .ok x ∧ parseTimestamp b.text = .ok y ∧
      (x.before y = true ↔ a.text.toUTF8.data.toList < b.text.toUTF8.data.toList) ∧
      (b = a.next → y = { x with seconds := x.seconds + 1 }) ∧
      ∀ zone : Zone, zone.Valid → parseTimestamp (a.text ++ zone.text) =
        .ok { x with seconds := x.seconds - zone.seconds } := by
  have hread : ∀ {c : Civil}, c.FourDigitYear → parseTimestamp c.text = .ok (c.toInstant 0) :=
    fun h => by simp only [parseTimestamp, Civil.parse_text h]
  have horder : (a.toInstant 0).before (b.toInstant 0) = true ↔
      a.text.toUTF8.data.toList < b.text.toUTF8.data.toList := by
    rw [Civil.text_eq, Civil.text_eq, Text.bytes_lt_iff, String.lt_iff, String.toList_ofList,
      String.toList_ofList, Civil.spell_lt_iff ha hb]
    exact Civil.before_iff_earlier ha.toPlain hb.toPlain
  refine ⟨_, _, hread ha, hread hb, horder, ?_, fun zone hzone => ?_⟩
  · rintro rfl
    exact Civil.toInstant_next ha.toPlain hb.toPlain
  · simp only [parseTimestamp, Civil.parse_zoned ha hzone, Civil.toInstant_eq ha.toPlain,
      Int.sub_zero]

/-- The last second of a leap day and the first one after it. -/
theorem parseTimestamp_ordered_like_text_leap_day :
    ∃ x y, parseTimestamp "2000-02-29T23:59:59" = .ok x ∧
      parseTimestamp "2000-03-01T00:00:00" = .ok y ∧ x.before y = true ∧
      y = { x with seconds := x.seconds + 1 } ∧
      parseTimestamp "2000-02-29T23:59:59+05:30" =
        .ok { x with seconds := x.seconds - 19800 } := by
  obtain ⟨x, y, hx, hy, horder, hnext, hzone⟩ := parseTimestamp_ordered_like_text
    (a := ⟨2000, 2, 29, 23, 59, 59, 0⟩) (b := ⟨2000, 3, 1, 0, 0, 0, 0⟩)
    ⟨⟨by decide, by decide, by decide, by decide, rfl⟩, by decide, by decide⟩
    ⟨⟨by decide, by decide, by decide, by decide, rfl⟩, by decide, by decide⟩
  exact ⟨x, y, hx, hy, horder.mpr (by decide), hnext rfl, hzone (.ahead 5 30) ⟨by decide, by decide⟩⟩

/-- Seconds are counted from the start of 1970. -/
example : parseTimestamp "1970-01-01T00:00:00" = .ok ⟨0, 0⟩ := rfl

end CloudInventory.LatestKey
