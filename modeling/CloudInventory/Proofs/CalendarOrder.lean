import CloudInventory.Time.Timestamp
import Mathlib.Tactic.SplitIfs

/-!
Counting days and seconds keeps the order of the calendar: a later date has a greater number, and
from each second of the calendar to the next one it is one second.
-/
namespace CloudInventory.Time

/-- A day of the Gregorian calendar. -/
def Gregorian (year : Int) (month day : Nat) : Prop :=
  1 ≤ month ∧ month ≤ 12 ∧ 1 ≤ day ∧
    (day ≤ 28 ∨ day ≤ 30 ∧ month ≠ 2 ∨ day = 31 ∧ month ∈ [1, 3, 5, 7, 8, 10, 12] ∨
      day = 29 ∧ month = 2 ∧ (4 ∣ year ∧ ¬ 100 ∣ year ∨ 400 ∣ year))

instance (year : Int) (month day : Nat) : Decidable (Gregorian year month day) :=
  inferInstanceAs (Decidable (_ ∧ _ ∧ _ ∧ _))

theorem isLeap_iff {year : Int} :
    isLeap year = true ↔ 4 ∣ year ∧ ¬ 100 ∣ year ∨ 400 ∣ year := by
  simp only [isLeap, Bool.and_eq_true, Bool.or_eq_true, decide_eq_true_eq, bne_iff_ne]
  omega

theorem gregorian_iff {year : Int} {month day : Nat} :
    Gregorian year month day ↔
      1 ≤ month ∧ month ≤ 12 ∧ 1 ≤ day ∧ day ≤ daysInMonth year month := by
  unfold Gregorian daysInMonth
  rw [← isLeap_iff]
  simp only [List.mem_cons, List.not_mem_nil, or_false]
  split
  case h_12 =>
    cases isLeap year with
    | false => simp
    | true =>
      simp
      omega
  case h_13 =>
    simp only [imp_false] at *
    omega
  all_goals
    simp
    omega

/-! ### Days of a year -/

def daysInYear (year : Int) : Nat :=
  if isLeap year then 366 else 365

theorem daysBeforeMonth_succ (year : Int) (month : Nat) :
    daysBeforeMonth year (month + 1) = daysBeforeMonth year month + daysInMonth year month :=
  rfl

theorem daysBeforeMonth_end (year : Int) : daysBeforeMonth year 13 = daysInYear year := by
  cases h : isLeap year <;> simp [daysBeforeMonth, daysInMonth, daysInYear, h]

theorem daysBeforeMonth_mono (year : Int) {first last : Nat} (h : first ≤ last) :
    daysBeforeMonth year first ≤ daysBeforeMonth year last := by
  induction h with
  | refl => exact Nat.le_refl _
  | step _ ih => exact Nat.le_add_right_of_le ih

theorem daysBeforeYear_succ (year : Int) :
    daysBeforeYear (year + 1) = daysBeforeYear year + daysInYear year := by
  have hleap := @isLeap_iff year
  simp only [daysBeforeYear, daysInYear]
  split
  case isTrue h =>
    have := hleap.mp h
    omega
  case isFalse h =>
    have := mt hleap.mpr h
    omega

theorem daysBeforeYear_mono {first last : Int} (h : first ≤ last) :
    daysBeforeYear first ≤ daysBeforeYear last := by
  simp only [daysBeforeYear]
  omega

/-! ### Dates in order -/

/-- The date is a day of the calendar, in a year that a date can have. -/
theorem isDate_iff {year : Int} {month day : Nat} :
    isDate year month day = true ↔ yearInRange year = true ∧ Gregorian year month day := by
  simp only [isDate, Bool.and_eq_true, decide_eq_true_eq, gregorian_iff, and_assoc]

theorem daysBeforeMonth_add_le {year : Int} {month day : Nat} (h : Gregorian year month day) :
    daysBeforeMonth year month + day ≤ daysBeforeMonth year (month + 1) := by
  rw [daysBeforeMonth_succ]
  exact Nat.add_le_add_left (gregorian_iff.mp h).2.2.2 _

/-- A later date of the calendar has a greater number. -/
theorem dayNumber_lt {year year' : Int} {month month' day day' : Nat}
    (h : Gregorian year month day) (h' : Gregorian year' month' day')
    (hlater : year < year' ∨ year = year' ∧ (month < month' ∨ month = month' ∧ day < day')) :
    dayNumber year month day < dayNumber year' month' day' := by
  have hday : 1 ≤ day' := h'.2.2.1
  have hmonth := daysBeforeMonth_add_le h
  unfold dayNumber
  rcases hlater with hyear | ⟨rfl, hwithin⟩
  · have hend : daysBeforeMonth year (month + 1) ≤ daysInYear year := by
      rw [← daysBeforeMonth_end]
      exact daysBeforeMonth_mono year (Nat.succ_le_succ h.2.1)
    have hnext : daysBeforeYear (year + 1) ≤ daysBeforeYear year' := daysBeforeYear_mono hyear
    rw [daysBeforeYear_succ] at hnext
    omega
  · rcases hwithin with hlt | ⟨rfl, hlt⟩
    · have hnext := daysBeforeMonth_mono year (Nat.succ_le_of_lt hlt)
      rw [Nat.succ_eq_add_one] at hnext
      omega
    · omega

/-- After the last day of a month the next one begins. -/
theorem dayNumber_next_month {year : Int} {month day : Nat} (h : Gregorian year month day)
    (hlast : ¬ Gregorian year month (day + 1)) :
    dayNumber year (month + 1) 1 = dayNumber year month day + 1 := by
  have hday : day = daysInMonth year month := by
    rw [gregorian_iff] at h hlast
    omega
  rw [dayNumber, dayNumber, daysBeforeMonth_succ, ← hday]
  omega

/-- A thirteenth month is the first of the next year. -/
theorem dayNumber_next_year (year : Int) : dayNumber year 13 1 = dayNumber (year + 1) 1 1 := by
  have hfirst : daysBeforeMonth (year + 1) 1 = 0 := rfl
  rw [dayNumber, dayNumber, daysBeforeMonth_end, hfirst, daysBeforeYear_succ]
  omega

/-! ### Seconds in order -/

/-- A second of the calendar: no leap second and no fraction of one. -/
structure Civil.Plain (c : Civil) : Prop where
  date : Gregorian c.year c.month c.day
  hour : c.hour ≤ 23
  minute : c.minute ≤ 59
  second : c.second ≤ 59
  nanos : c.nanos = 0

/-- Year, month, day, hour, minute and second are compared in turn. -/
def Civil.Earlier (a b : Civil) : Prop :=
  a.year < b.year ∨ a.year = b.year ∧ (a.month < b.month ∨ a.month = b.month ∧
    (a.day < b.day ∨ a.day = b.day ∧ (a.hour < b.hour ∨ a.hour = b.hour ∧
      (a.minute < b.minute ∨ a.minute = b.minute ∧ a.second < b.second))))

/-- The next second of the calendar. -/
def Civil.next (c : Civil) : Civil :=
  if c.second < 59 then { c with second := c.second + 1 }
  else if c.minute < 59 then { c with minute := c.minute + 1, second := 0 }
  else if c.hour < 23 then { c with hour := c.hour + 1, minute := 0, second := 0 }
  else if Gregorian c.year c.month (c.day + 1) then
    { c with day := c.day + 1, hour := 0, minute := 0, second := 0 }
  else if c.month < 12 then
    { c with month := c.month + 1, day := 1, hour := 0, minute := 0, second := 0 }
  else { c with year := c.year + 1, month := 1, day := 1, hour := 0, minute := 0, second := 0 }

namespace Civil

variable {a b c : Civil}

theorem toInstant_eq (h : c.Plain) (offset : Int) :
    c.toInstant offset = ⟨dayNumber c.year c.month c.day * 86400 +
      (c.hour * 3600 + c.minute * 60 + c.second) - offset, 0⟩ := by
  have hsecond := h.second
  have hmin : min c.second 59 = c.second := by omega
  have hnoleap : c.second ≠ 60 := by omega
  simp [toInstant, hmin, hnoleap, h.nanos]

theorem seconds_lt_of_earlier (ha : a.Plain) (hb : b.Plain) (h : a.Earlier b) :
    (a.toInstant 0).seconds < (b.toInstant 0).seconds := by
  rw [toInstant_eq ha, toInstant_eq hb]
  obtain ⟨hdateA, hhourA, hminuteA, hsecondA, -⟩ := ha
  obtain ⟨hdateB, hhourB, hminuteB, hsecondB, -⟩ := hb
  have hdates := dayNumber_lt hdateA hdateB
  unfold Earlier at h
  by_cases hsame : a.year = b.year ∧ a.month = b.month ∧ a.day = b.day
  · obtain ⟨hyear, hmonth, hday⟩ := hsame
    rw [hyear, hmonth, hday]
    dsimp only
    omega
  · have hlt := hdates (by omega)
    dsimp only
    omega

theorem earlier_or_eq (ha : a.Plain) (hb : b.Plain) : a.Earlier b ∨ b.Earlier a ∨ a = b := by
  have hnanosA := ha.nanos
  have hnanosB := hb.nanos
  obtain ⟨year, month, day, hour, minute, second, nanos⟩ := a
  obtain ⟨year', month', day', hour', minute', second', nanos'⟩ := b
  simp only [Earlier, mk.injEq] at *
  omega

/-- Seconds of the calendar are in the order of their instants. -/
theorem before_iff_earlier (ha : a.Plain) (hb : b.Plain) :
    (a.toInstant 0).before (b.toInstant 0) = true ↔ a.Earlier b := by
  have hnanos : (a.toInstant 0).nanos = (b.toInstant 0).nanos := by
    rw [toInstant_eq ha, toInstant_eq hb]
  have hseconds : (a.toInstant 0).before (b.toInstant 0) = true ↔
      (a.toInstant 0).seconds < (b.toInstant 0).seconds := by
    simp [Instant.before, hnanos]
  rw [hseconds]
  constructor
  · intro hlt
    rcases earlier_or_eq ha hb with hearlier | hback | rfl
    · exact hearlier
    · exact absurd (seconds_lt_of_earlier hb ha hback) (Int.lt_asymm hlt)
    · exact absurd hlt (Int.lt_irrefl _)
  · exact seconds_lt_of_earlier ha hb

/-- To the next second of the calendar it is one second. -/
theorem toInstant_next (h : c.Plain) (hnext : c.next.Plain) :
    c.next.toInstant 0 = { c.toInstant 0 with seconds := (c.toInstant 0).seconds + 1 } := by
  rw [toInstant_eq h, toInstant_eq hnext, Instant.mk.injEq]
  refine ⟨?_, rfl⟩
  obtain ⟨hdate, hhour, hminute, hsecond, -⟩ := h
  have hmonth : c.month ≤ 12 := hdate.2.1
  have hday : dayNumber c.year c.month (c.day + 1) = dayNumber c.year c.month c.day + 1 := by
    unfold dayNumber
    omega
  unfold next
  split_ifs with hroomS hroomM hroomH hroomD hroomY
  -- Within a day the date stays.
  · dsimp only
    omega
  · dsimp only
    omega
  · dsimp only
    omega
  -- At midnight the number of the day goes up by one.
  · dsimp only
    omega
  · have hfirst := dayNumber_next_month hdate hroomD
    dsimp only
    omega
  · have hfirst := dayNumber_next_month hdate hroomD
    have hthirteen : c.month + 1 = 13 := by omega
    rw [hthirteen, dayNumber_next_year] at hfirst
    dsimp only
    omega

end Civil

end CloudInventory.Time
