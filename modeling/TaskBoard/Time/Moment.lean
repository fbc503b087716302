import TaskBoard.Time.Instant

/-!
# Moments

The bounds of a time range are moments, which are finer than instants: seconds
since the epoch and nanoseconds within the second.  During a leap second the
nanoseconds of a minute's last second run on beyond a thousand million.
-/

namespace TaskBoard

/-- A moment within the calendar, to the nanosecond. -/
structure Moment where
  seconds : Int
  nanos : Nat
  after_first : -8334601228800 ≤ seconds
  before_last : seconds ≤ 8210266876799
  nanos_bound : nanos < 1000000000 ∨ (nanos < 2000000000 ∧ seconds % 60 = 59)
  deriving DecidableEq

namespace Moment

/-- The moment at a number of seconds and nanoseconds, if the calendar has it. -/
def of? (seconds : Int) (nanos : Nat) : Option Moment :=
  if lower : -8334601228800 ≤ seconds then
    if upper : seconds ≤ 8210266876799 then
      if bound : nanos < 1000000000 ∨ (nanos < 2000000000 ∧ seconds % 60 = 59) then
        some ⟨seconds, nanos, lower, upper, bound⟩
      else none
    else none
  else none

@[simp] theorem of?_self (moment : Moment) : of? moment.seconds moment.nanos = some moment := by
  simp [of?, moment.after_first, moment.before_last, moment.nanos_bound]

/-- The moment that an instant is. -/
def ofInstant (instant : Instant) : Moment where
  seconds := instant.millis / 1000
  nanos := (instant.millis % 1000).toNat * 1000000
  after_first := by have := instant.after_first; omega
  before_last := by have := instant.before_last; omega
  nanos_bound := by omega

/-- Moments are ordered by their seconds, then by their nanoseconds. -/
instance : LE Moment :=
  ⟨fun left right =>
    left.seconds < right.seconds ∨
      (left.seconds = right.seconds ∧ left.nanos ≤ right.nanos)⟩

instance (left right : Moment) : Decidable (left ≤ right) :=
  inferInstanceAs (Decidable (_ ∨ _))

theorem le_def {left right : Moment} :
    left ≤ right ↔ left.seconds < right.seconds ∨
      (left.seconds = right.seconds ∧ left.nanos ≤ right.nanos) := Iff.rfl

/-- Instants are ordered as the moments that they are. -/
theorem ofInstant_le {left right : Instant} :
    ofInstant left ≤ ofInstant right ↔ left ≤ right := by
  rw [le_def, Instant.le_def]
  simp only [ofInstant]
  omega

end Moment

end TaskBoard
