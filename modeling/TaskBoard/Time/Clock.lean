import TaskBoard.Time.Moment

/-!
# Clock times

A clock shows seconds since the epoch and nanoseconds within the second.  A leap second belongs
to the second that it prolongs: while it lasts the nanoseconds run on beyond a thousand million.
A moment that is written down has leap seconds at the end of a minute only; a clock can be set
to one in every second.

Where a span of time ends is counted without leap seconds, except for the one that the clock
shows.
-/

namespace TaskBoard

/-- A span of time in either direction, to the nanosecond. -/
structure Span where
  nanos : Int
  longest_back : -longestSpan * 1000000 ≤ nanos
  longest_ahead : nanos ≤ longestSpan * 1000000

namespace Span

/-- The span of a number of milliseconds, unless it is beyond the longest one. -/
def ofMillis? (millis : Int) : Option Span :=
  if legal : -longestSpan ≤ millis ∧ millis ≤ longestSpan then
    some ⟨millis * 1000000, by omega, by omega⟩
  else none

end Span

/-- What a clock shows, within the calendar. -/
structure ClockTime where
  seconds : Int
  nanos : Nat
  after_first : -8334601228800 ≤ seconds
  before_last : seconds ≤ 8210266876799
  nanos_bound : nanos < 2000000000

namespace ClockTime

/-- The clock time of a moment. -/
def ofMoment (moment : Moment) : ClockTime where
  seconds := moment.seconds
  nanos := moment.nanos
  after_first := moment.after_first
  before_last := moment.before_last
  nanos_bound := by have := moment.nanos_bound; omega

/-- The clock time of an instant. -/
def ofInstant (instant : Instant) : ClockTime := ofMoment (.ofInstant instant)

/-- Clock times are ordered by their seconds, then by their nanoseconds. -/
instance : LE ClockTime :=
  ⟨fun left right =>
    left.seconds < right.seconds ∨
      (left.seconds = right.seconds ∧ left.nanos ≤ right.nanos)⟩

instance : LT ClockTime :=
  ⟨fun left right =>
    left.seconds < right.seconds ∨
      (left.seconds = right.seconds ∧ left.nanos < right.nanos)⟩

instance (left right : ClockTime) : Decidable (left ≤ right) :=
  inferInstanceAs (Decidable (_ ∨ _))

instance (left right : ClockTime) : Decidable (left < right) :=
  inferInstanceAs (Decidable (_ ∨ _))

theorem le_def {left right : ClockTime} :
    left ≤ right ↔ left.seconds < right.seconds ∨
      (left.seconds = right.seconds ∧ left.nanos ≤ right.nanos) := Iff.rfl

theorem lt_def {left right : ClockTime} :
    left < right ↔ left.seconds < right.seconds ∨
      (left.seconds = right.seconds ∧ left.nanos < right.nanos) := Iff.rfl

theorem not_le {left right : ClockTime} : ¬ left ≤ right ↔ right < left := by
  rw [le_def, lt_def]
  omega

/-- The clock shows a leap second. -/
def InLeapSecond (time : ClockTime) : Prop := 1000000000 ≤ time.nanos

instance (time : ClockTime) : Decidable time.InLeapSecond :=
  inferInstanceAs (Decidable (_ ≤ _))

/-- The clock time a number of nanoseconds after the epoch, if the calendar has it.  No leap
second is counted. -/
def ofNanos? (nanos : Int) : Option ClockTime :=
  if within : -8334601228800 * 1000000000 ≤ nanos ∧ nanos < 8210266876800 * 1000000000 then
    some ⟨nanos / 1000000000, (nanos % 1000000000).toNat, by omega, by omega, by omega⟩
  else none

/-- The nanoseconds since the epoch that a clock shows. -/
def sinceEpoch (time : ClockTime) : Int := time.seconds * 1000000000 + time.nanos

/-- The clock time a span later, if the calendar has it.  If the clock shows a leap second,
its second lasts for two seconds; all other seconds are ordinary ones. -/
def plus? (now : ClockTime) (span : Span) : Option ClockTime :=
  if now.InLeapSecond then
    if within : 0 ≤ now.nanos + span.nanos ∧ now.nanos + span.nanos < 2000000000 then
      some { now with
        nanos := (now.nanos + span.nanos).toNat
        nanos_bound := by omega }
    else if now.nanos + span.nanos < 0 then ofNanos? (now.sinceEpoch + span.nanos)
    else ofNanos? (now.sinceEpoch + span.nanos - 1000000000)
  else ofNanos? (now.sinceEpoch + span.nanos)

end ClockTime

end TaskBoard
