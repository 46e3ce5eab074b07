import Mathlib.Algebra.BigOperators.Intervals
import Mathlib.Order.Interval.Finset.Nat
import Mathlib.Tactic.IntervalCases
import Gazette.Calendar.Date

/-! # Days counted month by month

The number of a day is the count of the days in the years and months before it, and every number is
that of a day. -/
namespace Gazette.Date

/-- The days of a year, month by month. -/
def daysInYear (year : Int) : Nat := ∑ month ∈ Finset.Icc 1 12, daysInMonth year month

/-- The days of some years, one after the other. -/
def daysInYears (year : Int) (count : Nat) : Nat :=
  ∑ i ∈ Finset.range count, daysInYear (year + i)

/-- The days from 1 January 1970 to a day, or less than zero back to it: whole years, whole months,
and the days of the month. -/
def dayCount (d : Date) : Int :=
  daysInYears 1970 (d.year - 1970).toNat - daysInYears d.year (1970 - d.year).toNat +
    (∑ month ∈ Finset.Ico 1 d.month, daysInMonth d.year month : Nat) + d.day - 1

theorem daysInMonth_le (year : Int) (month : Nat) : daysInMonth year month ≤ 31 := by
  unfold daysInMonth
  split
  · decide
  · decide
  · decide
  · decide
  · split <;> decide
  · exact le_rfl

theorem daysInYear_eq (year : Int) : daysInYear year = if isLeapYear year then 366 else 365 := by
  unfold daysInYear daysInMonth
  cases isLeapYear year <;> rfl

theorem daysBeforeYear_add_one (year : Int) :
    daysBeforeYear (year + 1) = daysBeforeYear year + daysInYear year := by
  rw [daysBeforeYear_succ, daysInYear_eq]
  split <;> rfl

theorem daysInYears_eq (year : Int) (count : Nat) :
    daysInYears year count = daysBeforeYear (year + count) - daysBeforeYear year := by
  unfold daysInYears
  induction count with
  | zero => simp
  | succ count ih =>
    rw [Finset.sum_range_succ, Nat.cast_add, ih, Nat.cast_succ, ← Int.add_assoc,
      daysBeforeYear_add_one]
    omega

/-- The days of a year before a month. -/
def monthStart (year : Int) (month : Nat) : Nat :=
  daysBeforeMonth month + if 2 < month && isLeapYear year then 1 else 0

/-- The days of a year up to the end of a month. -/
def monthEnd (year : Int) (month : Nat) : Nat := monthStart year month + daysInMonth year month

theorem monthStart_succ {year : Int} {month : Nat} (h : 1 ≤ month) (h' : month < 12) :
    monthStart year (month + 1) = monthEnd year month := by
  unfold monthEnd monthStart daysInMonth
  interval_cases month <;> cases isLeapYear year <;> rfl

theorem monthEnd_last (year : Int) : monthEnd year 12 = daysInYear year := by
  rw [daysInYear_eq]
  unfold monthEnd monthStart
  cases isLeapYear year <;> rfl

theorem sum_daysInMonth {year : Int} {month : Nat} (h : 1 ≤ month) (h' : month ≤ 12) :
    ∑ m ∈ Finset.Ico 1 month, daysInMonth year m = monthStart year month := by
  induction month, h using Nat.le_induction with
  | base => rfl
  | succ month h ih => rw [Finset.sum_Ico_succ_top h, ih (by omega), monthStart_succ h h', monthEnd]

theorem number_eq (d : Date) :
    d.number = daysBeforeYear d.year + monthStart d.year d.month + d.day - 1 - 719528 := by
  unfold number monthStart
  split
  · omega
  · omega

theorem number_eq_dayCount {d : Date} (h : d.Valid) : d.number = d.dayCount := by
  obtain ⟨hlow, hhigh, -, -⟩ := h
  have hepoch : daysBeforeYear 1970 = 719528 := rfl
  rw [number_eq, dayCount, sum_daysInMonth hlow hhigh, daysInYears_eq, daysInYears_eq]
  rcases Int.le_total 1970 d.year with hyear | hyear
  · have hto : 1970 + ((d.year - 1970).toNat : Int) = d.year := by omega
    have hback : d.year + ((1970 - d.year).toNat : Int) = d.year := by omega
    rw [hto, hback]
    omega
  · have hto : 1970 + ((d.year - 1970).toNat : Int) = 1970 := by omega
    have hback : d.year + ((1970 - d.year).toNat : Int) = 1970 := by omega
    rw [hto, hback]
    omega

/-! ## The day of a number -/

/-- The year of a day that is counted from 1 January of year 0: the one that the mean length of a
year gives, or one next to it. -/
def yearOf (n : Int) : Int :=
  let guess := 400 * n / 146097
  if daysBeforeYear (guess + 1) ≤ n then guess + 1
  else if daysBeforeYear guess ≤ n then guess else guess - 1

theorem ofNumber_eq (n : Int) : ofNumber n = ofDayOfYear (yearOf (n + 719528))
    (n + 719528 - daysBeforeYear (yearOf (n + 719528))).toNat 12 := rfl

/-- Years are 146097 / 400 days long on average, and their starts are never far from the mean. -/
theorem daysBeforeYear_mean (year : Int) : 146097 * year - 396 ≤ 400 * daysBeforeYear year ∧
    400 * daysBeforeYear year ≤ 146097 * year + 699 := by
  unfold daysBeforeYear
  omega

theorem yearOf_spec (n : Int) :
    daysBeforeYear (yearOf n) ≤ n ∧ n < daysBeforeYear (yearOf n + 1) := by
  simp only [yearOf]
  generalize hguess : 400 * n / 146097 = guess
  have hbefore := daysBeforeYear_mean (guess - 1)
  have hafter := daysBeforeYear_mean (guess + 1 + 1)
  split_ifs with hnext hsame
  · omega
  · omega
  · rw [Int.sub_add_cancel]
    omega

theorem monthStart_add_day_ofDayOfYear {year : Int} {n month : Nat} (hm : month ≤ 12)
    (h : 1 ≤ month) (hn : n < monthEnd year month) :
    let d := ofDayOfYear year n month
    d.Valid ∧ d.year = year ∧ monthStart year d.month + d.day = n + 1 := by
  induction month with
  | zero => omega
  | succ month ih =>
    intro d
    by_cases hstart : monthStart year (month + 1) ≤ n
    · have hd : d = ⟨year, month + 1, n - monthStart year (month + 1) + 1⟩ := if_pos hstart
      have hday : n - monthStart year (month + 1) + 1 ≤ daysInMonth year (month + 1) := by
        unfold monthEnd at hn
        omega
      have hsum : monthStart year (month + 1) + (n - monthStart year (month + 1) + 1) = n + 1 := by
        omega
      rw [hd]
      exact ⟨⟨h, hm, Nat.le_add_left 1 _, hday⟩, rfl, hsum⟩
    · have hd : d = ofDayOfYear year n month := if_neg hstart
      -- The year begins with the first month, so there is a month before this one.
      have hmonth : month ≠ 0 := by
        rintro rfl
        exact hstart (Nat.zero_le n)
      have hbefore : n < monthEnd year month := by
        rw [← monthStart_succ (by omega) (by omega)]
        omega
      rw [hd]
      exact ih (by omega) (by omega) hbefore

/-- Every number is that of a day. -/
theorem dayCount_ofNumber (n : Int) : (ofNumber n).Valid ∧ (ofNumber n).dayCount = n := by
  have hnumber := ofNumber_eq n
  obtain ⟨hstart, hend⟩ := yearOf_spec (n + 719528)
  generalize yearOf (n + 719528) = year at hnumber hstart hend
  have hlength : (n + 719528 - daysBeforeYear year).toNat < monthEnd year 12 := by
    rw [daysBeforeYear_add_one] at hend
    rw [monthEnd_last]
    omega
  obtain ⟨hvalid, hyear, hday⟩ := monthStart_add_day_ofDayOfYear (by decide) (by decide) hlength
  rw [← hnumber] at hvalid hyear hday
  refine ⟨hvalid, ?_⟩
  rw [← number_eq_dayCount hvalid, number_eq, hyear]
  omega

end Gazette.Date
