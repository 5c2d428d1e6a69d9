import Mathlib.Algebra.Order.Ring.Int
import Mathlib.Data.Int.ConditionallyCompleteOrder
import Mathlib.Tactic.IntervalCases

/-!
# `Base.Calendar` — the days of the Gregorian calendar, counted

A year is taken to start in March, which puts the leap day at its end: the days before a month are then
given by one formula.  Months are numbered from March of the year 0, days from 1970-01-01.
-/

namespace Calendar

/-! ## Months -/

/-- The days before the first of March of a year. -/
def yearStart (year : Int) : Int := 365 * year + year / 4 - year / 100 + year / 400

/-- The days of a year before its `k`-th month, March being the 0th. -/
def monthOffset (k : Int) : Int := (153 * k + 2) / 5

/-- The days before a month. -/
def monthStart (month : Int) : Int := yearStart (month / 12) + monthOffset (month % 12)

/-- The number of a month of a year, January being its first. -/
def monthNumber (year month : Int) : Int := 12 * year + month - 3

/-- A year with a leap day. -/
def isLeapYear (year : Int) : Bool := year % 4 = 0 && (year % 100 ≠ 0 || year % 400 = 0)

/-- **The number of days in a month** of a year. -/
def monthLength (year month : Int) : Int :=
  if month = 2 then if isLeapYear year then 29 else 28
  else if month = 4 ∨ month = 6 ∨ month = 9 ∨ month = 11 then 30
  else 31

theorem yearStart_pred (year : Int) :
    yearStart year = yearStart (year - 1) + 365 + if isLeapYear year then 1 else 0 := by
  have hleap : isLeapYear year = true ↔ year % 4 = 0 ∧ (year % 100 ≠ 0 ∨ year % 400 = 0) := by
    simp [isLeapYear]
  unfold yearStart
  by_cases h : isLeapYear year = true
  · have hrule := hleap.mp h
    rw [if_pos h]
    omega
  · have hrule := mt hleap.mpr h
    rw [if_neg h]
    omega

theorem monthStart_of_offset (year : Int) {k : Int} (hk : 0 ≤ k) (hlt : k < 12) :
    monthStart (12 * year + k) = yearStart year + monthOffset k := by
  have hyear : (12 * year + k) / 12 = year := by omega
  have hmonth : (12 * year + k) % 12 = k := by omega
  unfold monthStart
  rw [hyear, hmonth]

/-- **A month is as long as the calendar says.** -/
theorem monthStart_succ (year : Int) {month : Int} (hfirst : 1 ≤ month) (hlast : month ≤ 12) :
    monthStart (monthNumber year month + 1) =
      monthStart (monthNumber year month) + monthLength year month := by
  by_cases hlate : 3 ≤ month
  · have hnumber : monthNumber year month = 12 * year + (month - 3) := by
      unfold monthNumber
      omega
    have hnext : monthNumber year month + 1 = 12 * year + (month - 2) := by omega
    rw [hnext, hnumber, monthStart_of_offset year (by omega) (by omega),
      monthStart_of_offset year (by omega) (by omega)]
    unfold monthOffset monthLength
    interval_cases month <;> norm_num
    all_goals omega
  · -- January and February are the last two months of the year before
    have hpred := yearStart_pred year
    obtain rfl | rfl : month = 1 ∨ month = 2 := by omega
    · have hnumber : monthNumber year 1 = 12 * (year - 1) + 10 := by
        unfold monthNumber
        omega
      have hnext : monthNumber year 1 + 1 = 12 * (year - 1) + 11 := by omega
      rw [hnext, hnumber, monthStart_of_offset _ (by omega) (by omega),
        monthStart_of_offset _ (by omega) (by omega)]
      unfold monthOffset monthLength
      norm_num
      omega
    · have hnumber : monthNumber year 2 = 12 * (year - 1) + 11 := by
        unfold monthNumber
        omega
      have hnext : monthNumber year 2 + 1 = 12 * year + 0 := by omega
      rw [hnext, hnumber, monthStart_of_offset _ (by omega) (by omega),
        monthStart_of_offset _ (by omega) (by omega), hpred]
      unfold monthOffset monthLength
      rw [if_pos rfl]
      by_cases hleap : isLeapYear year = true
      · rw [if_pos hleap, if_pos hleap]
        omega
      · rw [if_neg hleap, if_neg hleap]
        omega

/-- No month is empty. -/
theorem monthStart_lt_succ (month : Int) : monthStart month < monthStart (month + 1) := by
  have hyear : month = monthNumber ((month + 2) / 12) ((month + 2) % 12 + 1) := by
    unfold monthNumber
    omega
  have hlength : 0 < monthLength ((month + 2) / 12) ((month + 2) % 12 + 1) := by
    unfold monthLength
    split
    · split <;> omega
    · split <;> omega
  rw [hyear, monthStart_succ _ (by omega) (by omega)]
  omega

/-- Later months start later. -/
theorem monthStart_strictMono : StrictMono monthStart :=
  strictMono_int_of_lt_succ monthStart_lt_succ

/-! ## Days -/

/-- **The number of a day.** -/
def dayNumber (year month day : Int) : Int :=
  monthStart (monthNumber year month) + (day - 1) - 719468

/-- The day comes before the next month. -/
theorem dayNumber_lt_monthStart {year month day : Int} (hfirst : 1 ≤ month) (hlast : month ≤ 12)
    (hday : day ≤ monthLength year month) :
    dayNumber year month day < monthStart (monthNumber year month + 1) - 719468 := by
  rw [monthStart_succ year hfirst hlast]
  unfold dayNumber
  omega

/-- **A day of an earlier month is an earlier day.** -/
theorem dayNumber_lt_of_month {year month day year' month' day' : Int} (hfirst : 1 ≤ month)
    (hlast : month ≤ 12) (hday : day ≤ monthLength year month) (hday' : 1 ≤ day')
    (h : monthNumber year month < monthNumber year' month') :
    dayNumber year month day < dayNumber year' month' day' := by
  have hend := dayNumber_lt_monthStart hfirst hlast hday
  have hstart : monthStart (monthNumber year month + 1) ≤ monthStart (monthNumber year' month') :=
    monthStart_strictMono.monotone h
  unfold dayNumber at hend ⊢
  omega

/-! ## Months later -/

/-- The month a day is in, the day given by the days before it. -/
def monthOf (days : Int) : Int :=
  let era := days / 146097
  let dayOfEra := days % 146097
  let yearOfEra := (dayOfEra - dayOfEra / 1460 + dayOfEra / 36524 - dayOfEra / 146096) / 365
  let dayOfYear := dayOfEra - (365 * yearOfEra + yearOfEra / 4 - yearOfEra / 100)
  12 * (yearOfEra + 400 * era) + (5 * dayOfYear + 2) / 153

/-- **The same day of the month, some months later**; the last day of a month that is too short. -/
def addMonths (day months : Int) : Int :=
  let days := day + 719468
  let month := monthOf days
  let later := month + months
  let length := monthStart (later + 1) - monthStart later
  monthStart later + min (days - monthStart month) (length - 1) - 719468

example : dayNumber 1970 1 1 = 0 := by decide

/-- A month after the last of January is the leap day. -/
example : addMonths (dayNumber 2024 1 31) 1 = dayNumber 2024 2 29 := by decide

end Calendar
