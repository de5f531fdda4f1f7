import Mathlib.Tactic.IntervalCases
import PipeQuery.Calendar.Date

/-!
# Day numbers and dates

Every day number has a date that the calendar has, and that date has the day number again. Years are
counted from March, so a day number falls in the year whose March starts last before it.
-/

set_option autoImplicit false

namespace PipeQuery.Date

/-! ## Years -/

theorem marchYear_spec (distance : Int) :
    marchStart (marchYear distance) ≤ distance ∧ distance < marchStart (marchYear distance + 1) := by
  unfold marchYear
  dsimp only
  split
  · next late =>
      refine ⟨late, ?_⟩
      simp only [marchStart]
      omega
  split
  · next early =>
      refine ⟨?_, by rw [Int.sub_add_cancel]; exact early⟩
      simp only [marchStart]
      omega
  · next late early => exact ⟨Int.not_lt.mp early, Int.not_le.mp late⟩

/-- The number of days of a calendar year. -/
def yearLength (year : Int) : Nat :=
  if isLeapYear year then 366 else 365

theorem yearLength_le (year : Int) : yearLength year ≤ 366 := by
  unfold yearLength
  split <;> decide

/-- A year counted from March has the leap day of the calendar year that it ends in. -/
theorem marchStart_succ (year : Int) :
    marchStart (year + 1) = marchStart year + yearLength (year + 1) := by
  have leap : isLeapYear (year + 1) = true ↔
      (year + 1) % 4 = 0 ∧ ((year + 1) % 100 ≠ 0 ∨ (year + 1) % 400 = 0) := by
    simp [isLeapYear]
  simp only [yearLength, leap, marchStart]
  split <;> omega

theorem marchStart_mono {year later : Int} (before : year ≤ later) :
    marchStart year ≤ marchStart later := by
  simp only [marchStart]
  omega

/-! ## Months -/

/-- A day of a year counted from March falls in one of twelve months, and in the last of them only up to
its leap day. -/
theorem month_spec {dayOfYear : Nat} (inYear : dayOfYear ≤ 365) :
    (5 * dayOfYear + 2) / 153 ≤ 11 ∧ monthStart ((5 * dayOfYear + 2) / 153) ≤ dayOfYear ∧
      dayOfYear < monthStart ((5 * dayOfYear + 2) / 153 + 1) := by
  simp only [monthStart]
  omega

theorem daysInMonth_spring (year : Int) {month : Nat} (early : month < 10) :
    daysInMonth year (month + 3) = monthStart (month + 1) - monthStart month := by
  interval_cases month <;> rfl

theorem daysInMonth_january (year : Int) :
    daysInMonth year 1 = monthStart (10 + 1) - monthStart 10 := rfl

theorem daysInMonth_february (year : Int) :
    daysInMonth year 2 = yearLength year - monthStart 11 := by
  simp only [daysInMonth, yearLength, beq_self_eq_true, if_true]
  split <;> rfl

/-! ## Dates -/

/-- The date of a day number, in a year counted from March. -/
theorem ofDayNumber_cases (number : Int) :
    ∃ year : Int, ∃ dayOfYear month : Nat,
      number + epochShift = marchStart year + dayOfYear ∧
      dayOfYear < yearLength (year + 1) ∧ month ≤ 11 ∧
      monthStart month ≤ dayOfYear ∧ dayOfYear < monthStart (month + 1) ∧
      ofDayNumber number =
        if month < 10 then ⟨year, month + 3, dayOfYear - monthStart month + 1⟩
        else ⟨year + 1, month - 9, dayOfYear - monthStart month + 1⟩ := by
  obtain ⟨lower, upper⟩ := marchYear_spec (number + epochShift)
  rw [marchStart_succ] at upper
  have length := yearLength_le (marchYear (number + epochShift) + 1)
  have inYear : (number + epochShift - marchStart (marchYear (number + epochShift))).toNat ≤ 365 := by
    omega
  obtain ⟨last, start, ends⟩ := month_spec inYear
  exact ⟨_, _, _, by omega, by omega, last, start, ends, rfl⟩

theorem dayNumber_ofDayNumber (number : Int) : (ofDayNumber number).dayNumber = number := by
  obtain ⟨year, dayOfYear, month, distance, -, last, start, -, date⟩ := ofDayNumber_cases number
  rw [date]
  by_cases early : month < 10
  · rw [if_pos early]
    simp only [dayNumber, if_pos (show month + 3 > 2 by omega), Nat.add_sub_cancel]
    omega
  · rw [if_neg early]
    simp only [dayNumber, if_neg (show ¬ month - 9 > 2 by omega), Int.add_sub_cancel,
      Nat.sub_add_cancel (show 9 ≤ month by omega)]
    omega

/-- The calendar has the date of every day number. -/
theorem ofDayNumber_inMonth (number : Int) :
    1 ≤ (ofDayNumber number).day ∧
      (ofDayNumber number).day ≤ daysInMonth (ofDayNumber number).year (ofDayNumber number).month := by
  obtain ⟨year, dayOfYear, month, -, inYear, last, start, ends, date⟩ := ofDayNumber_cases number
  rw [date]
  by_cases early : month < 10
  · simp only [if_pos early, daysInMonth_spring year early]
    omega
  · simp only [if_neg early]
    obtain rfl | rfl : month = 10 ∨ month = 11 := by omega
    · rw [daysInMonth_january (year + 1)]
      omega
    · rw [daysInMonth_february (year + 1)]
      omega

theorem ofDayNumber_month (number : Int) : (ofDayNumber number).month ≤ 12 := by
  obtain ⟨year, dayOfYear, month, -, -, last, -, -, date⟩ := ofDayNumber_cases number
  rw [date]
  split
  · simp only
    omega
  · simp only
    omega

theorem ofDayNumber_day (number : Int) : (ofDayNumber number).day ≤ 31 := by
  obtain ⟨year, dayOfYear, month, -, -, -, start, ends, date⟩ := ofDayNumber_cases number
  have length : monthStart (month + 1) ≤ monthStart month + 31 := by
    simp only [monthStart]
    omega
  rw [date]
  split
  · simp only
    omega
  · simp only
    omega

theorem ofFields?_ofDayNumber (number : Int) (early : firstYear ≤ (ofDayNumber number).year)
    (late : (ofDayNumber number).year ≤ lastYear) :
    ofFields? (ofDayNumber number).year (ofDayNumber number).month (ofDayNumber number).day =
      some (ofDayNumber number) := by
  obtain ⟨positive, inMonth⟩ := ofDayNumber_inMonth number
  exact if_pos ⟨early, late, positive, inMonth⟩

/-- The day number of a date with a year strictly between the first and the last is kept. -/
theorem isKept_of_year (number : Int) (early : firstYear < (ofDayNumber number).year)
    (late : (ofDayNumber number).year < lastYear) : isKept number = true := by
  obtain ⟨year, dayOfYear, month, distance, inYear, -, -, -, date⟩ := ofDayNumber_cases number
  have within : firstYear ≤ year ∧ year < lastYear := by
    rw [date] at early late
    split at early <;> simp only [*, if_true, if_false] at early late <;> omega
  have lower : marchStart firstYear ≤ marchStart year := marchStart_mono within.1
  have upper : marchStart (year + 1) ≤ marchStart lastYear := marchStart_mono within.2
  rw [marchStart_succ] at upper
  have first : dayNumber ⟨firstYear, 1, 1⟩ ≤ marchStart firstYear - epochShift := by decide
  have final : marchStart lastYear - epochShift ≤ dayNumber ⟨lastYear, 12, 31⟩ := by decide
  simp only [isKept, Bool.and_eq_true, decide_eq_true_eq]
  omega

end PipeQuery.Date
