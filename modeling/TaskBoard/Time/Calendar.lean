/-!
# The calendar

Days of the proleptic Gregorian calendar, counted from the first of January
1970.
-/

namespace TaskBoard

/-- A day of the calendar. -/
structure Date where
  year : Int
  month : Nat
  day : Nat
  deriving DecidableEq, Repr

namespace Date

/-- Whether a year has 366 days. -/
def isLeapYear (year : Int) : Bool :=
  decide (year % 4 = 0) && (decide (year % 100 ≠ 0) || decide (year % 400 = 0))

/-- The number of days in a month of a year. -/
def daysInMonth (year : Int) (month : Nat) : Nat :=
  if month = 2 then (if isLeapYear year then 29 else 28)
  else if month = 4 ∨ month = 6 ∨ month = 9 ∨ month = 11 then 30
  else 31

/-- The first and the last year of the calendar. -/
def yearRange : Int × Int := (-262143, 262142)

/-- Whether the day exists in the calendar. -/
def Exists (date : Date) : Prop :=
  yearRange.1 ≤ date.year ∧ date.year ≤ yearRange.2 ∧
    1 ≤ date.month ∧ date.month ≤ 12 ∧
    1 ≤ date.day ∧ date.day ≤ daysInMonth date.year date.month

instance (date : Date) : Decidable date.Exists := by unfold Exists; infer_instance

/-- Days from the epoch to the first of March of a year. -/
def marchOf (year : Int) : Int :=
  365 * year + year / 4 - year / 100 + year / 400 - 719468

/-- Months since March, and the year that the last March belongs to. -/
def sinceMarch (date : Date) : Nat × Int :=
  if date.month ≤ 2 then (date.month + 9, date.year - 1) else (date.month - 3, date.year)

/-- Days from the epoch to the date. -/
def toDays (date : Date) : Int :=
  let (month, year) := date.sinceMarch
  marchOf year + ((153 * month + 2) / 5 : Nat) + (date.day : Int) - 1

/-- The date that lies a number of days after the epoch. -/
def ofDays (days : Int) : Date :=
  let shifted := days + 719468
  let era := shifted / 146097
  let dayOfEra := (shifted % 146097).toNat
  let yearOfEra :=
    (dayOfEra - dayOfEra / 1460 + dayOfEra / 36524 - dayOfEra / 146096) / 365
  let dayOfYear := dayOfEra - (365 * yearOfEra + yearOfEra / 4 - yearOfEra / 100)
  let month := (5 * dayOfYear + 2) / 153
  let day := dayOfYear - (153 * month + 2) / 5 + 1
  let year := era * 400 + (yearOfEra : Int)
  if month < 10 then ⟨year, month + 3, day⟩ else ⟨year + 1, month - 9, day⟩

end Date

end TaskBoard
