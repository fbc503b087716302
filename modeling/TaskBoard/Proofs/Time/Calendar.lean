import Mathlib.Tactic.IntervalCases
import TaskBoard.Time.Calendar

/-!
# The calendar in both directions

Every number of days within the range of the calendar leads to a date that exists, and
the date leads back to the number.  Years are counted from March, in eras of four
hundred, so that a leap day is the last day of its year.
-/

namespace TaskBoard.Date

/-! ## Years of an era -/

/-- The days of an era that no leap day is counted among. -/
def commonDays (day : Nat) : Nat := day - day / 1460 + day / 36524 - day / 146096

/-- The year of an era that a day belongs to. -/
def yearOfEra (day : Nat) : Nat := commonDays day / 365

/-- The days of an era before a year. -/
def daysBefore (year : Nat) : Nat := 365 * year + year / 4 - year / 100

theorem commonDays_mono {day later : Nat} (ordered : day ≤ later) :
    commonDays day ≤ commonDays later := by
  induction later, ordered using Nat.le_induction with
  | base => exact Nat.le_refl _
  | succ later _ ih =>
      have step : commonDays later ≤ commonDays (later + 1) := by
        rw [commonDays, commonDays]
        omega
      exact Nat.le_trans ih step

theorem yearOfEra_mono {day later : Nat} (ordered : day ≤ later) :
    yearOfEra day ≤ yearOfEra later :=
  Nat.div_le_div_right (commonDays_mono ordered)

/-- A year of an era begins and ends where the days before it and the next one say. -/
theorem yearOfEra_daysBefore {year : Nat} (bound : year < 400) :
    yearOfEra (daysBefore year) = year ∧ yearOfEra (daysBefore (year + 1) - 1) = year := by
  have all : ∀ year : Fin 400, yearOfEra (daysBefore year) = year ∧
      yearOfEra (daysBefore (year + 1) - 1) = year := by decide +kernel
  exact all ⟨year, bound⟩

variable {day : Nat}

theorem yearOfEra_lt (bound : day < 146097) : yearOfEra day < 400 := by
  rw [yearOfEra, commonDays]
  omega

theorem daysBefore_yearOfEra_le (bound : day < 146097) : daysBefore (yearOfEra day) ≤ day := by
  -- A day before its year is not behind the last day of the year before, whose year is less.
  by_contra earlier
  cases year : yearOfEra day with
  | zero => simp [year, daysBefore] at earlier
  | succ previous =>
      rw [year] at earlier
      have small : previous + 1 < 400 := year ▸ yearOfEra_lt bound
      have ends := (yearOfEra_daysBefore (Nat.lt_of_succ_lt small)).2
      have ordered : yearOfEra day ≤ yearOfEra (daysBefore (previous + 1) - 1) :=
        yearOfEra_mono (by omega)
      omega

/-- A day lies before the next year of its era, if there is one. -/
theorem lt_daysBefore_succ (next : yearOfEra day + 1 < 400) :
    day < daysBefore (yearOfEra day + 1) := by
  by_contra later
  have begins := (yearOfEra_daysBefore next).1
  have ordered := yearOfEra_mono (Nat.not_lt.mp later)
  omega

/-- The day of the year that begins in March. -/
def dayOfYear (day : Nat) : Nat := day - daysBefore (yearOfEra day)

theorem daysBefore_add_dayOfYear (bound : day < 146097) :
    daysBefore (yearOfEra day) + dayOfYear day = day :=
  Nat.add_sub_of_le (daysBefore_yearOfEra_le bound)

/-- In the middle of an era every fourth year is a leap year unless a century ends. -/
theorem isLeapYear_iff (era : Int) {year : Nat} (inside : year + 1 < 400) :
    isLeapYear (era * 400 + year + 1) = true ↔ (year + 1) % 4 = 0 ∧ (year + 1) % 100 ≠ 0 := by
  simp only [isLeapYear, Bool.and_eq_true, Bool.or_eq_true, decide_eq_true_eq]
  omega

/-- A year has 365 days, and one more if it ends in the February of a leap year. -/
theorem dayOfYear_lt (bound : day < 146097) (era : Int) :
    dayOfYear day < if isLeapYear (era * 400 + yearOfEra day + 1) then 366 else 365 := by
  have place := daysBefore_add_dayOfYear bound
  have small := yearOfEra_lt bound
  -- The last year of an era has no next one in it, and ends in a leap year.
  by_cases last : yearOfEra day = 399
  · have leap : isLeapYear (era * 400 + yearOfEra day + 1) = true := by
      simp only [isLeapYear, Bool.and_eq_true, Bool.or_eq_true, decide_eq_true_eq]
      omega
    rw [leap, if_pos rfl]
    rw [last] at place
    simp only [daysBefore] at place
    omega
  · have inside : yearOfEra day + 1 < 400 := by omega
    have before := lt_daysBefore_succ inside
    have leap := isLeapYear_iff era inside
    simp only [daysBefore] at before place
    split
    · omega
    · next common =>
      rw [leap, not_and_or] at common
      rcases common with notFourth | century
      · have sameFourth : (yearOfEra day + 1) / 4 = yearOfEra day / 4 := by omega
        have sameCentury : (yearOfEra day + 1) / 100 = yearOfEra day / 100 := by omega
        omega
      · omega

/-! ## Months of a year -/

/-- The days of a year, counted from March, before a month. -/
def daysBeforeMonth (month : Nat) : Nat := (153 * month + 2) / 5

/-- The month, counted from March, of a day of the year. -/
def monthOf (day : Nat) : Nat := (5 * day + 2) / 153

theorem daysBeforeMonth_monthOf_le (day : Nat) : daysBeforeMonth (monthOf day) ≤ day := by
  rw [daysBeforeMonth, monthOf]
  omega

theorem lt_daysBeforeMonth_succ (day : Nat) : day < daysBeforeMonth (monthOf day + 1) := by
  rw [daysBeforeMonth, monthOf]
  omega

/-- The date of a day of the year that begins in March. -/
def inYear (year : Int) (day : Nat) : Date :=
  let dayOfMonth := day - daysBeforeMonth (monthOf day) + 1
  if monthOf day < 10 then ⟨year, monthOf day + 3, dayOfMonth⟩
  else ⟨year + 1, monthOf day - 9, dayOfMonth⟩

/-- A date is as many days after the March of its year as it was counted from there. -/
theorem toDays_inYear (year : Int) {day : Nat} (bound : day < 366) :
    (inYear year day).toDays = marchOf year + day := by
  have before := daysBeforeMonth_monthOf_le day
  have months : monthOf day < 12 := by
    rw [monthOf]
    omega
  rw [inYear]
  split
  · rw [toDays, sinceMarch, if_neg (by simp)]
    simp only [Nat.add_sub_cancel]
    rw [daysBeforeMonth] at before ⊢
    omega
  · next behind =>
    have month : monthOf day - 9 + 9 = monthOf day := by omega
    rw [toDays, sinceMarch, if_pos (by simp; omega)]
    simp only [month, Int.add_sub_cancel]
    rw [daysBeforeMonth] at before ⊢
    omega

/-- A day of the year lies in a month that has it. -/
theorem exists_inYear {year : Int} {day : Nat}
    (bound : day < if isLeapYear (year + 1) then 366 else 365)
    (first : -262143 ≤ (inYear year day).year) (last : (inYear year day).year ≤ 262142) :
    (inYear year day).Exists := by
  have next := lt_daysBeforeMonth_succ day
  have months : monthOf day < 12 := by
    rw [monthOf]
    split at bound <;> omega
  refine ⟨first, last, ?_⟩
  clear first last
  rw [inYear]
  -- In each of the twelve months the day is below the first of the next month.
  generalize monthOf day = month at next months ⊢
  interval_cases month <;> simp [daysBeforeMonth, daysInMonth] at next ⊢ <;> grind

/-! ## Days of the calendar -/

variable (days : Int)

/-- Whole eras before a day of the calendar, and the day of its era. -/
theorem exists_era : ∃ (era : Int) (day : Nat), day < 146097 ∧ days + 719468 = era * 146097 + day ∧
    ofDays days = inYear (era * 400 + yearOfEra day) (dayOfYear day) := by
  refine ⟨(days + 719468) / 146097, ((days + 719468) % 146097).toNat, by omega, by omega, rfl⟩

theorem marchOf_era (era : Int) {year : Nat} (bound : year < 400) :
    marchOf (era * 400 + year) = era * 146097 + daysBefore year - 719468 := by
  rw [marchOf, daysBefore]
  omega

/-- Days are days of a year that begins in March. -/
theorem exists_year : ∃ (year : Int) (day : Nat),
    (day < if isLeapYear (year + 1) then 366 else 365) ∧ days = marchOf year + day ∧
      ofDays days = inYear year day := by
  obtain ⟨era, day, bound, place, date⟩ := exists_era days
  have inside := daysBefore_add_dayOfYear bound
  have march := marchOf_era era (yearOfEra_lt bound)
  exact ⟨_, _, dayOfYear_lt bound era, by omega, date⟩

/-- The date of a number of days is that number of days after the epoch. -/
theorem toDays_ofDays : (ofDays days).toDays = days := by
  obtain ⟨year, day, bound, place, date⟩ := exists_year days
  have short : day < 366 := by split at bound <;> omega
  rw [date, toDays_inYear year short, place]

theorem marchOf_mono {year later : Int} (ordered : year ≤ later) :
    marchOf year ≤ marchOf later := by
  induction later, ordered using Int.leInduction with
  | base => exact Int.le_refl _
  | succ later _ ih =>
      have step : marchOf later ≤ marchOf (later + 1) := by
        rw [marchOf, marchOf]
        omega
      exact Int.le_trans ih step

theorem year_inYear (year : Int) (day : Nat) :
    (inYear year day).year = if day < 306 then year else year + 1 := by
  have fromMarch : monthOf day < 10 ↔ day < 306 := by
    rw [monthOf]
    omega
  simp only [inYear, fromMarch]
  split <;> rfl

/-- Every day from the first to the last year of the calendar exists. -/
theorem exists_ofDays {days : Int} (first : -96465292 ≤ days) (last : days ≤ 95026236) :
    (ofDays days).Exists := by
  obtain ⟨year, day, bound, place, date⟩ := exists_year days
  have short : day < 366 := by split at bound <;> omega
  have notEarly : -262144 ≤ year := by
    by_contra early
    have : marchOf year ≤ marchOf (-262145) := marchOf_mono (by omega)
    have : marchOf (-262145) = -96465964 := by decide
    omega
  have notLate : year ≤ 262142 := by
    by_contra late
    have : marchOf 262143 ≤ marchOf year := marchOf_mono (by omega)
    have : marchOf 262143 = 95026296 := by decide
    omega
  rw [date]
  apply exists_inYear bound <;> rw [year_inYear]
  · split
    · by_contra early
      have : year = -262144 := by omega
      subst this
      have : marchOf (-262144) = -96465598 := by decide
      omega
    · omega
  · split
    · omega
    · by_contra late
      have : year = 262142 := by omega
      subst this
      have : marchOf 262142 = 95025931 := by decide
      omega

end TaskBoard.Date
