/-! # Days of the Gregorian calendar -/
namespace Gazette

/-- A day by year, month and day of the month; year 0 is the one before year 1. -/
structure Date where
  year : Int
  month : Nat
  day : Nat
  deriving DecidableEq, Repr

namespace Date

def isLeapYear (year : Int) : Bool :=
  year % 4 = 0 && (year % 100 ≠ 0 || year % 400 = 0)

def daysInMonth (year : Int) (month : Nat) : Nat :=
  match month with
  | 4 | 6 | 9 | 11 => 30
  | 2 => if isLeapYear year then 29 else 28
  | _ => 31

/-- There is such a day. -/
def Valid (d : Date) : Prop :=
  1 ≤ d.month ∧ d.month ≤ 12 ∧ 1 ≤ d.day ∧ d.day ≤ daysInMonth d.year d.month

instance (d : Date) : Decidable d.Valid := inferInstanceAs (Decidable (_ ∧ _))

/-- The days of a common year before a month. -/
def daysBeforeMonth (month : Nat) : Nat :=
  match month with
  | 2 => 31 | 3 => 59 | 4 => 90 | 5 => 120 | 6 => 151 | 7 => 181
  | 8 => 212 | 9 => 243 | 10 => 273 | 11 => 304 | 12 => 334 | _ => 0

/-- The days from 1 January of year 0 to 1 January of a year. -/
def daysBeforeYear (year : Int) : Int :=
  365 * year + (year + 3) / 4 - (year + 99) / 100 + (year + 399) / 400

theorem daysBeforeYear_succ (year : Int) :
    daysBeforeYear (year + 1) = daysBeforeYear year + if isLeapYear year then 366 else 365 := by
  simp only [daysBeforeYear, isLeapYear, Bool.and_eq_true, Bool.or_eq_true, decide_eq_true_eq]
  split <;> omega

/-- The number of a day, counted from 1 January 1970. -/
def number (d : Date) : Int :=
  daysBeforeYear d.year + daysBeforeMonth d.month +
    (if 2 < d.month && isLeapYear d.year then 1 else 0) + d.day - 1 - 719528

/-- The last month that begins on or before the given day of a year, counted from zero, and the day
of that month. -/
def ofDayOfYear (year : Int) (n : Nat) : Nat → Date
  | 0 => ⟨year, 1, n + 1⟩
  | month + 1 =>
    let start := daysBeforeMonth (month + 1) + if 2 < month + 1 && isLeapYear year then 1 else 0
    if start ≤ n then ⟨year, month + 1, n - start + 1⟩ else ofDayOfYear year n month

/-- The day of a number. -/
def ofNumber (n : Int) : Date :=
  let n := n + 719528
  let guess := (400 * n) / 146097
  let year := if daysBeforeYear (guess + 1) ≤ n then guess + 1
    else if daysBeforeYear guess ≤ n then guess else guess - 1
  ofDayOfYear year (n - daysBeforeYear year).toNat 12

end Date
end Gazette
