import TaskBoard.Proofs.Time.Clock
import TaskBoard.Task.Basic

/-!
# Deadlines

A deadline is due within a window if it is to come and no further away than the window is
long.  The board looks for the clock time at which the window ends, and near the ends of the
calendar there may be none: then it does not answer.  Every answer that it gives is right.
-/

namespace TaskBoard

namespace Deadline

/-- There is a deadline that is to come. -/
def Ahead (deadline : Option ClockTime) (now : ClockTime) : Prop :=
  ∃ due, deadline = some due ∧ now < due

/-- There is a deadline that is to come and no further away than the window is long. -/
def DueWithin (deadline : Option ClockTime) (now : ClockTime) (window : Span) : Prop :=
  ∃ due, deadline = some due ∧ now < due ∧ now.nanosUntil due ≤ window.nanos

variable {deadline : Option ClockTime} {now : ClockTime} {window : Span}

/-- A deadline has come if there is one and it is not to come. -/
theorem isExpired_iff :
    isExpired deadline now = true ↔ deadline.isSome = true ∧ ¬ Ahead deadline now := by
  cases deadline with
  | none => simp [isExpired]
  | some due => simp [isExpired, Ahead, ← ClockTime.not_le]

theorem ahead_of_dueWithin (soon : DueWithin deadline now window) : Ahead deadline now := by
  obtain ⟨due, isDue, toCome, _⟩ := soon
  exact ⟨due, isDue, toCome⟩

/-- A window that ends outside the calendar takes in every deadline that is to come, or it
ends before now and takes in none. -/
theorem dueWithin_iff_of_not_endsInCalendar (ahead : Ahead deadline now)
    (outside : ¬ now.EndsInCalendar window) :
    DueWithin deadline now window ↔ 0 < window.nanos := by
  obtain ⟨due, rfl, toCome⟩ := ahead
  rw [← ClockTime.nanosUntil_le_iff_of_not_endsInCalendar outside toCome]
  constructor
  · rintro ⟨_, ⟨⟩, _, near⟩
    exact near
  · intro near
    exact ⟨due, rfl, toCome, near⟩

/-- Without a deadline that is to come, the end of the window is not looked for. -/
theorem isExpiringSoon?_of_not_ahead (notAhead : ¬ Ahead deadline now) :
    isExpiringSoon? deadline now window = some false := by
  cases deadline with
  | none => rfl
  | some due => exact if_neg fun toCome => notAhead ⟨due, rfl, toCome⟩

/-- With a deadline that is to come, the end of the window decides. -/
theorem isExpiringSoon?_of_lt {due : ClockTime} (toCome : now < due) :
    isExpiringSoon? (some due) now window =
      (now.plus? window).map fun limit => decide (due ≤ limit) :=
  if_pos toCome

theorem isExpiringSoon?_eq_none_iff :
    isExpiringSoon? deadline now window = none ↔
      Ahead deadline now ∧ ¬ now.EndsInCalendar window := by
  by_cases ahead : Ahead deadline now
  · rw [and_iff_right ahead]
    obtain ⟨due, rfl, toCome⟩ := ahead
    rw [isExpiringSoon?_of_lt toCome, Option.map_eq_none_iff, ClockTime.plus?_eq_none_iff]
  · rw [isExpiringSoon?_of_not_ahead ahead]
    simp [ahead]

/-- An answer says whether the deadline is due within the window. -/
theorem eq_true_iff_of_isExpiringSoon? {soon : Bool}
    (answered : isExpiringSoon? deadline now window = some soon) :
    soon = true ↔ DueWithin deadline now window := by
  by_cases ahead : Ahead deadline now
  · obtain ⟨due, rfl, toCome⟩ := ahead
    rw [isExpiringSoon?_of_lt toCome, Option.map_eq_some_iff] at answered
    obtain ⟨limit, ends, rfl⟩ := answered
    obtain ⟨away, counted⟩ := ClockTime.nanosUntil_of_plus? ends
    rw [decide_eq_true_iff, ClockTime.le_iff_nanosUntil_le counted, away]
    constructor
    · intro near
      exact ⟨due, rfl, toCome, near⟩
    · rintro ⟨_, ⟨⟩, _, near⟩
      exact near
  · rw [isExpiringSoon?_of_not_ahead ahead] at answered
    cases answered
    exact ⟨nofun, fun due => absurd (ahead_of_dueWithin due) ahead⟩

/-- Half a second before the end of a minute, a window of 600 milliseconds takes in the leap
second that follows. -/
example :
    isExpiringSoon?
      (some ⟨59, 1200000000, by decide, by decide, by decide⟩)
      ⟨59, 500000000, by decide, by decide, by decide⟩
      ⟨600000000, by decide, by decide⟩ = some true := by decide

end Deadline

namespace Task

/-- The task has a deadline that is to come and no further away than a number of
milliseconds. -/
def DueWithin (task : Task) (now : Instant) (window : Int) : Prop :=
  ∃ deadline, task.deadline = some deadline ∧ now < deadline ∧
    deadline.millis - now.millis ≤ window

variable (task : Task) (now : Instant)

theorem isExpired_eq :
    task.isExpired now =
      Deadline.isExpired (task.deadline.map ClockTime.ofInstant) (.ofInstant now) := by
  rw [isExpired]
  cases task.deadline with
  | none => rfl
  | some deadline => exact decide_eq_decide.mpr ClockTime.ofInstant_le.symm

theorem isExpiringSoon?_eq {millis : Int} {window : Span}
    (long : millis * 1000000 = window.nanos) :
    task.isExpiringSoon? now millis =
      Deadline.isExpiringSoon? (task.deadline.map ClockTime.ofInstant) (.ofInstant now) window := by
  have legal : -longestSpan ≤ millis ∧ millis ≤ longestSpan := by
    have back := window.longest_back
    have ahead := window.longest_ahead
    omega
  cases window with
  | mk nanos back ahead =>
      cases long
      rw [isExpiringSoon?, Span.ofMillis?, dif_pos legal]
      rfl

theorem dueWithin_iff {millis : Int} {window : Span} (long : millis * 1000000 = window.nanos) :
    task.DueWithin now millis ↔
      Deadline.DueWithin (task.deadline.map ClockTime.ofInstant) (.ofInstant now) window := by
  rw [DueWithin, Deadline.DueWithin]
  cases task.deadline with
  | none => simp
  | some deadline =>
      simp only [Option.map_some, Option.some.injEq, exists_eq_left', ClockTime.ofInstant_lt,
        ClockTime.nanosUntil_ofInstant, ← long]
      exact and_congr_right fun _ => by omega

end Task

/-- The board does not say whether a deadline is due within a window exactly if the deadline
is to come and the window ends outside the calendar; it would be due then exactly if the
window is positive.  All other answers are right.  A deadline has come exactly if it is not to
come, and none that has come is found to be due.  Outside leap seconds, the time until a
deadline is a difference of what the clock shows, and for the tasks of the board one of
milliseconds. -/
theorem Deadline.due_within_window (deadline : Option ClockTime) (now : ClockTime)
    (window : Span) :
    (isExpiringSoon? deadline now window = none ↔
        Ahead deadline now ∧ ¬ now.EndsInCalendar window) ∧
      (isExpiringSoon? deadline now window = none →
        (DueWithin deadline now window ↔ 0 < window.nanos)) ∧
      (∀ soon, isExpiringSoon? deadline now window = some soon →
        (soon = true ↔ DueWithin deadline now window)) ∧
      (isExpired deadline now = true ↔ deadline.isSome = true ∧ ¬ Ahead deadline now) ∧
      ¬ (isExpiringSoon? deadline now window = some true ∧ isExpired deadline now = true) ∧
      (∀ due, ¬ now.InLeapSecond → ¬ due.InLeapSecond →
        now.nanosUntil due = due.sinceEpoch - now.sinceEpoch) ∧
      ∀ (task : Task) (instant : Instant) (millis : Int),
        task.deadline.map ClockTime.ofInstant = deadline → .ofInstant instant = now →
          millis * 1000000 = window.nanos →
            task.isExpiringSoon? instant millis = isExpiringSoon? deadline now window ∧
              task.isExpired instant = isExpired deadline now ∧
              (task.DueWithin instant millis ↔ DueWithin deadline now window) := by
  have unanswered := @isExpiringSoon?_eq_none_iff deadline now window
  refine ⟨unanswered, ?_, fun soon => eq_true_iff_of_isExpiringSoon?, isExpired_iff, ?_,
    fun due => ClockTime.nanosUntil_eq_sub, ?_⟩
  · intro silent
    obtain ⟨ahead, outside⟩ := unanswered.mp silent
    exact dueWithin_iff_of_not_endsInCalendar ahead outside
  · rintro ⟨soon, expired⟩
    have due := (eq_true_iff_of_isExpiringSoon? soon).mp rfl
    exact (isExpired_iff.mp expired).2 (ahead_of_dueWithin due)
  · rintro task instant millis rfl rfl long
    exact ⟨task.isExpiringSoon?_eq instant long, task.isExpired_eq instant,
      task.dueWithin_iff instant long⟩

/-- An hour before a deadline, a window of an hour reaches it and one of half an hour does
not.  A nanosecond before the end of the calendar, nothing is said about a window of two
nanoseconds, and a deadline in a leap second at the end is due within it. -/
theorem Deadline.due_within_window_hour :
    (∃ (task : Task) (eleven noon : Instant) (hour halfHour : Span),
      task.deadline.map ClockTime.ofInstant = some (.ofInstant noon) ∧
      3600000 * 1000000 = hour.nanos ∧ 1800000 * 1000000 = halfHour.nanos ∧
      ¬ (ClockTime.ofInstant eleven).InLeapSecond ∧ ¬ (ClockTime.ofInstant noon).InLeapSecond ∧
      (ClockTime.ofInstant eleven).nanosUntil (.ofInstant noon) = hour.nanos ∧
      task.isExpiringSoon? eleven 3600000 = some true ∧ task.DueWithin eleven 3600000 ∧
      task.isExpiringSoon? eleven 1800000 = some false ∧ ¬ task.DueWithin eleven 1800000) ∧
    ∃ (due now : ClockTime) (window : Span),
      isExpiringSoon? (some due) now window = none ∧ DueWithin (some due) now window := by
  constructor
  · let noon : Instant := ⟨43200000, by decide, by decide⟩
    let eleven : Instant := ⟨39600000, by decide, by decide⟩
    let task := { Task.fresh ⟨1, by decide⟩ "Docs" ⟨"alice"⟩ .epoch with deadline := some noon }
    let hour : Span := ⟨3600000 * 1000000, by decide, by decide⟩
    let halfHour : Span := ⟨1800000 * 1000000, by decide, by decide⟩
    obtain ⟨_, _, answers, _, _, difference, tasks⟩ :=
      due_within_window (some (.ofInstant noon)) (.ofInstant eleven) hour
    obtain ⟨_, _, answersHalf, _, _, _, tasksHalf⟩ :=
      due_within_window (some (.ofInstant noon)) (.ofInstant eleven) halfHour
    obtain ⟨answer, _, due⟩ := tasks task eleven 3600000 rfl rfl rfl
    obtain ⟨answerHalf, _, dueHalf⟩ := tasksHalf task eleven 1800000 rfl rfl rfl
    have soon : isExpiringSoon? (some (.ofInstant noon)) (.ofInstant eleven) hour = some true := by
      decide
    have notSoon :
        isExpiringSoon? (some (.ofInstant noon)) (.ofInstant eleven) halfHour = some false := by
      decide
    have ordinary : ¬ (ClockTime.ofInstant eleven).InLeapSecond := by decide
    have ordinaryNoon : ¬ (ClockTime.ofInstant noon).InLeapSecond := by decide
    refine ⟨task, eleven, noon, hour, halfHour, rfl, rfl, rfl, ordinary, ordinaryNoon,
      (difference _ ordinary ordinaryNoon).trans (by decide), answer.trans soon,
      due.mpr ((answers _ soon).mp rfl), answerHalf.trans notSoon, ?_⟩
    intro dueWithin
    cases (answersHalf _ notSoon).mpr (dueHalf.mp dueWithin)
  · let due : ClockTime := ⟨8210266876799, 1000000000, by decide, by decide, by decide⟩
    let now : ClockTime := ⟨8210266876799, 999999999, by decide, by decide, by decide⟩
    let window : Span := ⟨2, by decide, by decide⟩
    have silent : isExpiringSoon? (some due) now window = none := by decide
    obtain ⟨_, dueOfSilent, _⟩ := due_within_window (some due) now window
    exact ⟨due, now, window, silent, (dueOfSilent silent).mpr (by decide)⟩

/-- One millisecond before the last instant of the calendar, a deadline at the last is due
within two milliseconds, and there is no answer. -/
theorem Task.due_unanswered_at_end :
    ∃ (task : Task) (now : Instant), (-longestSpan ≤ 2 ∧ 2 ≤ longestSpan) ∧
      task.DueWithin now 2 ∧ task.isExpiringSoon? now 2 = none := by
  let last : Instant := ⟨8210266876799999, by decide, by decide⟩
  let now : Instant := ⟨8210266876799998, by decide, by decide⟩
  let task := { fresh ⟨1, by decide⟩ "Docs" ⟨"alice"⟩ .epoch with deadline := some last }
  refine ⟨task, now, by decide, ⟨last, rfl, ?_, ?_⟩, by decide⟩
  · decide
  · decide

end TaskBoard
