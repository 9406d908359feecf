import LoadPlan.Plan.Timestamp
import Mathlib.Order.Monotone.Basic
import Mathlib.Tactic.IntervalCases
/-!
# The calendar

Days are numbered from the first of March of year zero, and years start in March, so that the leap
day is the last of its year. A day's date is a day of the calendar (`month_date`, `day_date`) and
has the number it is the date of (`dayNumber_date`).

The year of a day is found by taking leap days off its number and dividing by 365. That this gives
the year is seen at the starts of the four hundred years of a cycle: the quotient changes there and
nowhere else.
-/

namespace LoadPlan.Timestamp

/-! ## Years -/

/-- The number of a day in its cycle, less about as many leap days as come before it. -/
def leapless (k : Int) : Int := k - k / 1460 + k / 36524 - k / 146096

/-- The day of its cycle that a year starts on. -/
def yearStart (y : Int) : Int := 365 * y + y / 4 - y / 100

/-- How many days a year has. Its last day may be the leap day of the next calendar year. -/
def yearLength (y : Int) : Int := if isLeapYear (y + 1) then 366 else 365

theorem leapless_le {k k' : Int} (h : k ≤ k') : leapless k ≤ leapless k' := by
  have hstep : ∀ k : Int, leapless k ≤ leapless (k + 1) := by
    intro k
    unfold leapless
    omega
  exact monotone_int_of_le_succ hstep h

/-- The quotient of each year is reached on its first day, and not left before its last. -/
theorem leapless_yearStart : ∀ y : Nat, y < 400 →
    (y = 0 ∨ leapless (yearStart y - 1) < 365 * y) ∧
      365 * (y + 1) ≤ leapless (yearStart y + yearLength y) := by
  decide +kernel

/-- **A day of a cycle lies in the year that its quotient names.** -/
theorem mem_year {k : Int} (hfrom : 0 ≤ k) (hto : k < 146097) :
    yearStart (leapless k / 365) ≤ k ∧
      k < yearStart (leapless k / 365) + yearLength (leapless k / 365) := by
  have hbounds : 0 ≤ leapless k / 365 ∧ leapless k / 365 < 400 := by
    unfold leapless
    omega
  obtain ⟨y, hy⟩ := Int.eq_ofNat_of_zero_le hbounds.1
  obtain ⟨hfirst, hlast⟩ := leapless_yearStart y (by omega)
  rw [hy]
  constructor
  · by_contra hbefore
    have hle := leapless_le (show k ≤ yearStart y - 1 by omega)
    rcases hfirst with rfl | hfirst
    · exact hbefore hfrom
    · omega
  · by_contra hafter
    have hle := leapless_le (show yearStart y + yearLength y ≤ k by omega)
    omega

/-- Leap years repeat from cycle to cycle. -/
theorem isLeapYear_add_cycles (y c : Int) : isLeapYear (y + 400 * c) = isLeapYear y := by
  have h4 : (y + 400 * c) % 4 = y % 4 := by omega
  have h100 : (y + 400 * c) % 100 = y % 100 := by omega
  have h400 : (y + 400 * c) % 400 = y % 400 := by omega
  rw [isLeapYear, isLeapYear, h4, h100, h400]

/-! ## Dates -/

/-- The year of its cycle that a day lies in. -/
def yearOf (n : Int) : Int := leapless (n % 146097) / 365

/-- The day of its year, the first of March being zero. -/
def dayOf (n : Int) : Int := n % 146097 - yearStart (yearOf n)

/-- The month of its year, March being zero. -/
def monthOf (n : Int) : Int := (5 * dayOf n + 2) / 153

theorem yearOf_bounds (n : Int) : 0 ≤ yearOf n ∧ yearOf n < 400 := by
  unfold yearOf leapless
  omega

theorem dayOf_bounds (n : Int) : 0 ≤ dayOf n ∧ dayOf n < yearLength (yearOf n) := by
  have hmem := mem_year (show 0 ≤ n % 146097 by omega) (by omega)
  unfold dayOf yearOf
  omega

theorem monthOf_bounds (n : Int) : 0 ≤ monthOf n ∧ monthOf n < 12 := by
  have hlength : yearLength (yearOf n) ≤ 366 := by
    unfold yearLength
    split <;> decide
  have hday := dayOf_bounds n
  unfold monthOf
  omega

/-- A date from the parts that are counted from March on. -/
theorem date_eq (n : Int) : date n =
    (yearOf n + 400 * (n / 146097) + if monthOf n < 10 then 0 else 1,
      (if monthOf n < 10 then monthOf n + 3 else monthOf n - 9).toNat,
      (dayOf n - (153 * monthOf n + 2) / 5 + 1).toNat) := by
  have hmonth := monthOf_bounds n
  have hdate : date n = (yearOf n + 400 * (n / 146097) +
      (if (if monthOf n < 10 then monthOf n + 3 else monthOf n - 9) ≤ 2 then 1 else 0),
      (if monthOf n < 10 then monthOf n + 3 else monthOf n - 9).toNat,
      (dayOf n - (153 * monthOf n + 2) / 5 + 1).toNat) := rfl
  rw [hdate]
  split
  · simp only [Prod.mk.injEq, and_true, Int.add_right_inj]
    omega
  · simp only [Prod.mk.injEq, and_true, Int.add_right_inj]
    omega

/-- **A date has the number it is the date of.** -/
theorem dayNumber_date (n : Int) : dayNumber (date n).1 (date n).2.1 (date n).2.2 = n := by
  have hyear := yearOf_bounds n
  have hday := dayOf_bounds n
  have hmonth := monthOf_bounds n
  have hin : n % 146097 = yearStart (yearOf n) + dayOf n := by
    unfold dayOf
    omega
  unfold yearStart at hin
  have hstart : (153 * monthOf n + 2) / 5 ≤ dayOf n := by
    unfold monthOf
    omega
  rw [date_eq, dayNumber]
  dsimp only
  split
  · rw [if_neg (by omega), if_neg (by omega)]
    omega
  · rw [if_pos (by omega), if_pos (by omega)]
    omega

/-- A date has a month of the calendar. -/
theorem month_date (n : Int) : 1 ≤ (date n).2.1 ∧ (date n).2.1 ≤ 12 := by
  have hmonth := monthOf_bounds n
  rw [date_eq]
  dsimp only
  split <;> omega

/-- **A date has a day of its month.** -/
theorem day_date (n : Int) :
    1 ≤ (date n).2.2 ∧ (date n).2.2 ≤ daysInMonth (date n).1 (date n).2.1 := by
  obtain ⟨hday, hlast⟩ := dayOf_bounds n
  obtain ⟨hmonth, hmonths⟩ := monthOf_bounds n
  have hdef : monthOf n = (5 * dayOf n + 2) / 153 := rfl
  have hleap : isLeapYear (yearOf n + 400 * (n / 146097) + 1) = isLeapYear (yearOf n + 1) := by
    rw [Int.add_right_comm, isLeapYear_add_cycles]
  rw [date_eq]
  generalize monthOf n = m at *
  generalize dayOf n = d at *
  refine ⟨by dsimp only; omega, ?_⟩
  rcases eq_or_ne m 11 with rfl | hother
  · -- February ends with the year, so it has the day that a leap year has more
    have hfebruary : daysInMonth (yearOf n + 400 * (n / 146097) + 1) 2 =
        if isLeapYear (yearOf n + 1) then 29 else 28 := by
      rw [daysInMonth, hleap]
    change (d - 337 + 1).toNat ≤ daysInMonth (yearOf n + 400 * (n / 146097) + 1) 2
    rw [hfebruary]
    unfold yearLength at hlast
    split at hlast <;> rename_i hyear
    · rw [if_pos hyear]
      omega
    · rw [if_neg hyear]
      omega
  · interval_cases m <;> simp [daysInMonth] <;> omega

end LoadPlan.Timestamp
