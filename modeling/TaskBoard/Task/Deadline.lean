import TaskBoard.Time.Clock

/-!
# Deadlines

A task may have a deadline, and a clock tells whether it has come or comes soon.
-/

namespace TaskBoard.Deadline

/-- Whether there is a deadline and it has come. -/
def isExpired (deadline : Option ClockTime) (now : ClockTime) : Bool :=
  deadline.any fun due => decide (due ≤ now)

/-- Whether there is a deadline that has not come and comes within a span of time.  There is
no answer if the deadline is to come and the span ends outside the calendar. -/
def isExpiringSoon? (deadline : Option ClockTime) (now : ClockTime) (window : Span) :
    Option Bool :=
  match deadline with
  | none => some false
  | some due =>
      if now < due then (now.plus? window).map fun limit => decide (due ≤ limit)
      else some false

end TaskBoard.Deadline
