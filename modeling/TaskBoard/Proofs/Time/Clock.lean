import TaskBoard.Time.Clock

/-!
# Spans between clock times

The time from one clock time to another is counted without leap seconds, except for the one
that the first of them lies in.  `plus?` is the other direction: it finds the clock time that
is a span away and lies in no leap second but this one.  So it is a question about numbers
whether a clock time comes before the end of a span.
-/

namespace TaskBoard.ClockTime

/-- The number of nanoseconds from a clock time to another.  If the first lies in a leap
second, its second lasts for two seconds.  All others are ordinary ones: a clock time in a
leap second of theirs is where the next second begins. -/
def nanosUntil (now other : ClockTime) : Int :=
  if now.InLeapSecond ∧ other.seconds = now.seconds then other.nanos - now.nanos
  else
    other.seconds * 1000000000 + min other.nanos 1000000000 - now.sinceEpoch +
      if now.InLeapSecond ∧ now.seconds < other.seconds then 1000000000 else 0

/-- The span that begins at a clock time ends within the calendar. -/
def EndsInCalendar (now : ClockTime) (span : Span) : Prop :=
  -8334601228800 * 1000000000 ≤ now.sinceEpoch + span.nanos ∧
    now.sinceEpoch + span.nanos <
      8210266876800 * 1000000000 + if now.InLeapSecond then 1000000000 else 0

/-- The other clock time lies in no leap second but one that the first lies in, too. -/
def Counts (now other : ClockTime) : Prop :=
  other.InLeapSecond → now.InLeapSecond ∧ other.seconds = now.seconds

variable {now due limit : ClockTime} {span : Span}

theorem counts_of_ordinary (ordinary : ¬ limit.InLeapSecond) : now.Counts limit :=
  fun inLeap => absurd inLeap ordinary

theorem nanosUntil_of_ordinary (ordinary : ¬ now.InLeapSecond) :
    now.nanosUntil due =
      due.seconds * 1000000000 + min due.nanos 1000000000 - now.sinceEpoch := by
  simp only [nanosUntil, ordinary, false_and, if_false, Int.add_zero]

theorem nanosUntil_of_inLeapSecond (inLeap : now.InLeapSecond) :
    now.nanosUntil due =
      if due.seconds = now.seconds then (due.nanos - now.nanos : Int)
      else
        due.seconds * 1000000000 + min due.nanos 1000000000 - now.sinceEpoch +
          if now.seconds < due.seconds then 1000000000 else 0 := by
  simp only [nanosUntil, inLeap, true_and]

/-- Outside leap seconds, the time between two clock times is the difference of what the
clock shows. -/
theorem nanosUntil_eq_sub (ordinary : ¬ now.InLeapSecond) (ordinaryDue : ¬ due.InLeapSecond) :
    now.nanosUntil due = due.sinceEpoch - now.sinceEpoch := by
  rw [InLeapSecond] at ordinaryDue
  rw [nanosUntil_of_ordinary ordinary, sinceEpoch, sinceEpoch]
  omega

@[simp] theorem nanosUntil_self : now.nanosUntil now = 0 := by
  by_cases inLeap : now.InLeapSecond
  · rw [nanosUntil_of_inLeapSecond inLeap, if_pos rfl, Int.sub_self]
  · rw [nanosUntil_eq_sub inLeap inLeap, Int.sub_self]

/-- The order of clock times is that of their distances. -/
theorem le_iff_nanosUntil_le (counted : now.Counts limit) :
    due ≤ limit ↔ now.nanosUntil due ≤ now.nanosUntil limit := by
  have dueBound := due.nanos_bound
  have limitBound := limit.nanos_bound
  have nowBound := now.nanos_bound
  rw [le_def]
  by_cases inLeap : now.InLeapSecond
  · -- Each of the two lies before, in or after the second that lasts for two.
    rw [nanosUntil_of_inLeapSecond inLeap, nanosUntil_of_inLeapSecond inLeap]
    simp only [Counts, InLeapSecond, sinceEpoch] at *
    omega
  · have ordinary : ¬ limit.InLeapSecond := fun inLeapLimit => inLeap (counted inLeapLimit).1
    rw [InLeapSecond] at ordinary
    rw [nanosUntil_of_ordinary inLeap, nanosUntil_of_ordinary inLeap]
    omega

theorem lt_iff_nanosUntil_pos : now < due ↔ 0 < now.nanosUntil due := by
  have counted : now.Counts now := fun inLeap => ⟨inLeap, rfl⟩
  rw [← not_le, le_iff_nanosUntil_le counted, nanosUntil_self, Int.not_le]

/-! ### Where a span ends -/

theorem ofNanos?_eq_some {nanos : Int} (found : ofNanos? nanos = some limit) :
    limit.sinceEpoch = nanos ∧ ¬ limit.InLeapSecond := by
  unfold ofNanos? at found
  split at found
  · cases found
    simp only [sinceEpoch, InLeapSecond]
    omega
  · contradiction

theorem ofNanos?_eq_none_iff {nanos : Int} :
    ofNanos? nanos = none ↔
      ¬ (-8334601228800 * 1000000000 ≤ nanos ∧ nanos < 8210266876800 * 1000000000) := by
  rw [ofNanos?]
  split
  · next within => exact ⟨nofun, fun outside => absurd within outside⟩
  · next outside => exact ⟨fun _ => outside, fun _ => rfl⟩

/-- The end of a span is the span away, and no leap second is missed. -/
theorem nanosUntil_of_plus? (ends : now.plus? span = some limit) :
    now.nanosUntil limit = span.nanos ∧ now.Counts limit := by
  unfold plus? at ends
  split at ends
  · next inLeap =>
    rw [nanosUntil_of_inLeapSecond inLeap]
    split at ends
    · cases ends
      rw [if_pos rfl]
      exact ⟨by dsimp only; omega, fun _ => ⟨inLeap, rfl⟩⟩
    · split at ends
      · -- The span goes back to a time before the leap second.
        obtain ⟨landed, ordinary⟩ := ofNanos?_eq_some ends
        refine ⟨?_, counts_of_ordinary ordinary⟩
        simp only [InLeapSecond, sinceEpoch] at *
        omega
      · -- The span goes on to a time after it.
        obtain ⟨landed, ordinary⟩ := ofNanos?_eq_some ends
        refine ⟨?_, counts_of_ordinary ordinary⟩
        simp only [InLeapSecond, sinceEpoch] at *
        omega
  · next ordinary =>
    obtain ⟨landed, ordinaryLimit⟩ := ofNanos?_eq_some ends
    rw [nanosUntil_eq_sub ordinary ordinaryLimit, landed]
    exact ⟨by omega, counts_of_ordinary ordinaryLimit⟩

theorem plus?_eq_none_iff : now.plus? span = none ↔ ¬ now.EndsInCalendar span := by
  rw [plus?, EndsInCalendar]
  split
  · next inLeap =>
    have lower := now.after_first
    have upper := now.before_last
    rw [InLeapSecond] at inLeap
    split
    · -- The leap second itself is within the calendar.
      simp only [reduceCtorEq, false_iff, Classical.not_not, sinceEpoch]
      omega
    · split
      · rw [ofNanos?_eq_none_iff, sinceEpoch]
        omega
      · rw [ofNanos?_eq_none_iff, sinceEpoch]
        omega
  · rw [Int.add_zero, ofNanos?_eq_none_iff]

/-- Nothing is further away than the end of the calendar. -/
theorem nanosUntil_le_end :
    now.nanosUntil due ≤
      8210266876800 * 1000000000 + (if now.InLeapSecond then 1000000000 else 0) -
        now.sinceEpoch := by
  have upper := due.before_last
  by_cases inLeap : now.InLeapSecond
  · have bound := due.nanos_bound
    rw [nanosUntil_of_inLeapSecond inLeap, if_pos inLeap, sinceEpoch]
    omega
  · rw [nanosUntil_of_ordinary inLeap, if_neg inLeap]
    omega

/-- A span that ends outside the calendar reaches everything that is to come, or it goes back
and reaches nothing. -/
theorem nanosUntil_le_iff_of_not_endsInCalendar (outside : ¬ now.EndsInCalendar span)
    (toCome : now < due) : now.nanosUntil due ≤ span.nanos ↔ 0 < span.nanos := by
  have positive := lt_iff_nanosUntil_pos.mp toCome
  have near : now.nanosUntil due ≤ _ := nanosUntil_le_end
  have first : -8334601228800 * 1000000000 ≤ now.sinceEpoch := by
    have lower := now.after_first
    rw [sinceEpoch]
    omega
  rw [EndsInCalendar] at outside
  omega

/-! ### Instants -/

theorem not_inLeapSecond_ofInstant (instant : Instant) : ¬ (ofInstant instant).InLeapSecond := by
  simp only [InLeapSecond, ofInstant, ofMoment, Moment.ofInstant]
  omega

theorem sinceEpoch_ofInstant (instant : Instant) :
    (ofInstant instant).sinceEpoch = instant.millis * 1000000 := by
  simp only [sinceEpoch, ofInstant, ofMoment, Moment.ofInstant]
  omega

/-- The time between instants is what their milliseconds say. -/
theorem nanosUntil_ofInstant (now due : Instant) :
    (ofInstant now).nanosUntil (ofInstant due) = (due.millis - now.millis) * 1000000 := by
  rw [nanosUntil_eq_sub (not_inLeapSecond_ofInstant now) (not_inLeapSecond_ofInstant due),
    sinceEpoch_ofInstant, sinceEpoch_ofInstant, Int.sub_mul]

theorem ofInstant_le {left right : Instant} :
    ofInstant left ≤ ofInstant right ↔ left ≤ right := Moment.ofInstant_le

theorem ofInstant_lt {left right : Instant} :
    ofInstant left < ofInstant right ↔ left < right := by
  rw [lt_iff_nanosUntil_pos, nanosUntil_ofInstant, Instant.lt_def]
  omega

end TaskBoard.ClockTime
