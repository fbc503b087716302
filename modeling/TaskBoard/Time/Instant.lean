/-!
# Instants

Tasks and all other records are stored and exchanged with times in whole milliseconds, and
that is the scope of what is kept here: the times of the board are instants.  The calendar
itself is finer, its moments and clock times have nanoseconds and leap seconds.  An instant
lies within the calendar, so adding a span of time to one can fail.
-/

namespace TaskBoard

/-- A whole number of milliseconds since the epoch, within the calendar. -/
structure Instant where
  millis : Int
  after_first : -8334601228800000 ≤ millis
  before_last : millis ≤ 8210266876799999
  deriving DecidableEq

namespace Instant

@[ext] theorem ext {left right : Instant} (equal : left.millis = right.millis) :
    left = right := by
  cases left
  cases right
  cases equal
  rfl

/-- The instant at a number of milliseconds, if the calendar has it. -/
def ofMillis? (millis : Int) : Option Instant :=
  if lower : -8334601228800000 ≤ millis then
    if upper : millis ≤ 8210266876799999 then some ⟨millis, lower, upper⟩ else none
  else none

@[simp] theorem ofMillis?_millis (instant : Instant) :
    ofMillis? instant.millis = some instant := by
  simp [ofMillis?, instant.after_first, instant.before_last]

/-- The beginning of the epoch. -/
def epoch : Instant := ⟨0, by decide, by decide⟩

instance : Inhabited Instant := ⟨epoch⟩

instance : LE Instant := ⟨fun left right => left.millis ≤ right.millis⟩

instance : LT Instant := ⟨fun left right => left.millis < right.millis⟩

instance (left right : Instant) : Decidable (left ≤ right) :=
  inferInstanceAs (Decidable (left.millis ≤ right.millis))

instance (left right : Instant) : Decidable (left < right) :=
  inferInstanceAs (Decidable (left.millis < right.millis))

theorem le_def {left right : Instant} : left ≤ right ↔ left.millis ≤ right.millis := Iff.rfl

theorem lt_def {left right : Instant} : left < right ↔ left.millis < right.millis := Iff.rfl

/-- The later of two instants. -/
def latest (left right : Instant) : Instant := if left ≤ right then right else left

/-- The instant a number of milliseconds later, if the calendar has it. -/
def plus? (instant : Instant) (span : Int) : Option Instant := ofMillis? (instant.millis + span)

@[simp] theorem latest_millis (left right : Instant) :
    (left.latest right).millis = max left.millis right.millis := by
  unfold latest
  split
  · next ordered => exact (Int.max_eq_right ordered).symm
  · next reversed => exact (Int.max_eq_left (Int.le_of_not_le reversed)).symm

theorem latest_eq_left {left right : Instant} (ordered : right ≤ left) : left.latest right = left :=
  ext ((latest_millis left right).trans (Int.max_eq_left ordered))

end Instant

/-- The longest span of time that is counted in milliseconds, in either direction. -/
def longestSpan : Int := 9223372036854775807

end TaskBoard
