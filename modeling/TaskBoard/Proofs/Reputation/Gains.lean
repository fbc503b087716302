import TaskBoard.Proofs.Ledger.Endings
import TaskBoard.Proofs.Number.CappedSums

/-!
# Gains in any order

Completions and ratings are gains.  Everything that they add to a reputation is added up
and stops at a bound, so a list of gains adds the same in any order (`Merit.Adds`).
Cancellations stop at zero instead, which makes the order matter; but they keep the order
of scores, so that a score with cancellations is never above the one without them.
-/

namespace TaskBoard

namespace Merit

/-- Whether a merit is a completion or a rating. -/
def isGain : Merit → Bool
  | completion _ _ => true
  | cancellation _ => false
  | rating _ _ => true

/-- The points that a merit brings. -/
def points (rules : Rules) : Merit → Nat
  | completion difficulty _ => (rules.completionPoints difficulty).val
  | cancellation _ => 0
  | rating given _ => (rules.ratingPoints given.val).val

/-- The points that a merit costs. -/
def penalty (rules : Rules) : Merit → Nat
  | completion _ _ => 0
  | cancellation _ => rules.cancellationPenalty.val
  | rating _ _ => 0

/-- A reputation is what gains make of another one: the points, the completions and the
ratings are added up, and the level is the one of the score. -/
structure Adds (rules : Rules) (start : Reputation) (gains : List Merit)
    (reached : Reputation) : Prop where
  totalScore : reached.totalScore.val =
    min (start.totalScore.val + (gains.map (points rules)).sum) 4294967295
  level : reached.level = .ofScore reached.totalScore.val
  completedTasks : reached.completedTasks.val =
    min (start.completedTasks.val + (gains.filterMap outcome?).count .completed) 4294967295
  cancelledTasks : reached.cancelledTasks = start.cancelledTasks
  totalRatings : reached.totalRatings.val =
    min (start.totalRatings.val + (gains.filterMap rating?).length) 4294967295
  ratingSum : reached.ratingSum.val =
    min (start.ratingSum.val + ((gains.filterMap rating?).map Bounded.val).sum) 4294967295

variable {rules : Rules} {start : Reputation} {gains other : List Merit}

/-! ### One merit -/

/-- The score after a merit is the exact one, cut to the range of scores. -/
theorem totalScore_record (rules : Rules) (reputation : Reputation) (merit : Merit) :
    ((merit.record rules reputation).totalScore.val : Int) =
      max 0 (min (reputation.totalScore.val + merit.points rules - merit.penalty rules)
        4294967295) := by
  have bound := reputation.totalScore.le_limit
  cases merit with
  | completion difficulty now =>
      have raised : (record rules reputation (.completion difficulty now)).totalScore.val =
          min (reputation.totalScore.val + (rules.completionPoints difficulty).val) 4294967295 :=
        rfl
      simp only [raised, points, penalty]
      omega
  | cancellation now =>
      have lowered : (record rules reputation (.cancellation now)).totalScore.val =
          reputation.totalScore.val - rules.cancellationPenalty.val := rfl
      simp only [lowered, points, penalty]
      omega
  | rating given now =>
      have raised : (record rules reputation (.rating given now)).totalScore.val =
          min (reputation.totalScore.val + (rules.ratingPoints given.val).val) 4294967295 := rfl
      simp only [raised, points, penalty]
      omega

@[simp] theorem level_record (rules : Rules) (reputation : Reputation) (merit : Merit) :
    (merit.record rules reputation).level =
      .ofScore (merit.record rules reputation).totalScore.val := by
  cases merit <;> rfl

theorem penalty_of_isGain {merit : Merit} (gain : merit.isGain = true) :
    merit.penalty rules = 0 := by
  cases merit with
  | completion | rating => rfl
  | cancellation => cases gain

/-- There is no cancellation among gains. -/
theorem not_mem_outcomes (gaining : ∀ merit ∈ gains, merit.isGain = true) :
    .cancelled ∉ gains.filterMap outcome? := by
  intro member
  obtain ⟨merit, isGain, cancelled⟩ := List.mem_filterMap.mp member
  cases merit with
  | completion | rating => cases cancelled
  | cancellation => cases gaining _ isGain

/-- A merit leaves the lower of two scores the lower one. -/
theorem totalScore_record_mono {lower higher : Reputation}
    (le : lower.totalScore.val ≤ higher.totalScore.val) (rules : Rules) (merit : Merit) :
    (merit.record rules lower).totalScore.val ≤ (merit.record rules higher).totalScore.val := by
  have ofLower := totalScore_record rules lower merit
  have ofHigher := totalScore_record rules higher merit
  omega

/-! ### Lists of merits -/

/-- Leaving out cancellations, and beginning with a score that is not lower, does not lead to a
lower score. -/
theorem totalScore_foldl_record_le {lower higher : Reputation}
    (le : lower.totalScore.val ≤ higher.totalScore.val) (rules : Rules) (merits : List Merit) :
    (merits.foldl (record rules) lower).totalScore.val ≤
      ((merits.filter isGain).foldl (record rules) higher).totalScore.val := by
  induction merits generalizing lower higher with
  | nil => exact le
  | cons merit rest ih =>
      cases merit with
      | completion | rating => exact ih (totalScore_record_mono le rules _)
      | cancellation now => exact ih (Nat.le_trans (Nat.sub_le _ _) le)

theorem level_foldl_record (leveled : start.level = .ofScore start.totalScore.val)
    (rules : Rules) (merits : List Merit) :
    (merits.foldl (record rules) start).level =
      .ofScore (merits.foldl (record rules) start).totalScore.val := by
  induction merits generalizing start with
  | nil => exact leveled
  | cons merit rest ih => exact ih (level_record rules start merit)

theorem adds_foldl_record (leveled : start.level = .ofScore start.totalScore.val)
    (gaining : ∀ merit ∈ gains, merit.isGain = true) :
    Adds rules start gains (gains.foldl (record rules) start) where
  totalScore := by
    apply foldl_stops_at (fun reputation : Reputation => reputation.totalScore.val)
    · intro reputation merit member
      have recorded := totalScore_record rules reputation merit
      rw [penalty_of_isGain (gaining merit member)] at recorded
      omega
    · exact start.totalScore.le_limit
  level := level_foldl_record leveled rules gains
  completedTasks := Reputation.tally_foldl_record rules gains start .completed
  cancelledTasks := by
    apply Bounded.ext
    have counted := Reputation.tally_foldl_record rules gains start .cancelled
    rw [List.count_eq_zero.mpr (not_mem_outcomes gaining), Nat.add_zero,
      Nat.min_eq_left (start.tally_le .cancelled)] at counted
    exact counted
  totalRatings := totalRatings_foldl_record rules gains start
  ratingSum := ratingSum_foldl_record rules gains start

/-- What gains make of a reputation depends neither on their order nor, but for the time of
the last one, on when they are recorded. -/
theorem Adds.eq_of_perm {reached otherwise : Reputation} (adds : Adds rules start gains reached)
    (also : Adds rules start other otherwise) (permuted : gains.Perm other) :
    { otherwise with lastUpdated := reached.lastUpdated } = reached := by
  have totalScore : otherwise.totalScore = reached.totalScore := by
    apply Bounded.ext
    rw [also.totalScore, adds.totalScore, (permuted.map (points rules)).sum_nat]
  have level : otherwise.level = reached.level := by
    rw [also.level, adds.level, totalScore]
  have completedTasks : otherwise.completedTasks = reached.completedTasks := by
    apply Bounded.ext
    rw [also.completedTasks, adds.completedTasks, (permuted.filterMap outcome?).count_eq]
  have cancelledTasks : otherwise.cancelledTasks = reached.cancelledTasks :=
    also.cancelledTasks.trans adds.cancelledTasks.symm
  have totalRatings : otherwise.totalRatings = reached.totalRatings := by
    apply Bounded.ext
    rw [also.totalRatings, adds.totalRatings, (permuted.filterMap rating?).length_eq]
  have ratingSum : otherwise.ratingSum = reached.ratingSum := by
    apply Bounded.ext
    rw [also.ratingSum, adds.ratingSum, ((permuted.filterMap rating?).map Bounded.val).sum_nat]
  simp only [totalScore, level, completedTasks, cancelledTasks, totalRatings, ratingSum]

/-- A list of completions and ratings leads to the same reputation in any order: its points,
completions and ratings are added up, each up to its bound, and the level is the one of the
score.  Cancellations that are put among them anywhere do not lead to a higher score, and
after every merit the score is the exact one, cut to the range from zero to the greatest
score. -/
theorem record_gains_in_any_order (rules : Rules) {start : Reputation}
    (leveled : start.level = .ofScore start.totalScore.val) {gains : List Merit}
    (gaining : ∀ merit ∈ gains, merit.isGain = true) :
    let reached := gains.foldl (record rules) start
    (∀ other, gains.Perm other →
      { other.foldl (record rules) start with lastUpdated := reached.lastUpdated } = reached) ∧
    reached.totalScore.val =
      min (start.totalScore.val + (gains.map (points rules)).sum) 4294967295 ∧
    reached.level = .ofScore reached.totalScore.val ∧
    reached.completedTasks.val =
      min (start.completedTasks.val + (gains.filterMap outcome?).count .completed) 4294967295 ∧
    reached.cancelledTasks = start.cancelledTasks ∧
    reached.totalRatings.val =
      min (start.totalRatings.val + (gains.filterMap rating?).length) 4294967295 ∧
    reached.ratingSum.val =
      min (start.ratingSum.val + ((gains.filterMap rating?).map Bounded.val).sum) 4294967295 ∧
    ∀ merits, merits.filter isGain = gains →
      (merits.foldl (record rules) start).totalScore.val ≤ reached.totalScore.val ∧
      ∀ before merit behind, merits = before ++ merit :: behind →
        let earlier := before.foldl (record rules) start
        ((merit.record rules earlier).totalScore.val : Int) =
          max 0 (min (earlier.totalScore.val + merit.points rules - merit.penalty rules)
            4294967295) := by
  intro reached
  have adds : Adds rules start gains reached := adds_foldl_record leveled gaining
  refine ⟨?_, adds.totalScore, adds.level, adds.completedTasks, adds.cancelledTasks,
    adds.totalRatings, adds.ratingSum, ?_⟩
  · intro other permuted
    have alsoGaining : ∀ merit ∈ other, merit.isGain = true := fun merit member =>
      gaining merit (permuted.mem_iff.mpr member)
    exact adds.eq_of_perm (adds_foldl_record leveled alsoGaining) permuted
  · rintro merits rfl
    constructor
    · exact totalScore_foldl_record_le (Nat.le_refl _) rules merits
    · intro before merit behind _
      exact totalScore_record rules _ merit

/-- A completion and a rating reach the greatest score in either order, and a cancellation
before them leaves the score at zero. -/
theorem record_gains_in_any_order_capped :
    let rules : Rules := ⟨4294967290, 1, 7⟩
    let gains := [completion .easiest .epoch, rating 5 .epoch]
    let merits := cancellation .epoch :: gains
    let reached := gains.foldl (record rules) .initial
    Reputation.initial.level = .ofScore Reputation.initial.totalScore.val ∧
      (∀ merit ∈ gains, merit.isGain = true) ∧ gains.Perm gains.reverse ∧
      merits.filter isGain = gains ∧
      { gains.reverse.foldl (record rules) .initial with
        lastUpdated := reached.lastUpdated } = reached ∧
      reached.totalScore.val = 4294967295 ∧
      (merits.foldl (record rules) .initial).totalScore.val ≤ 4294967295 ∧
      (((cancellation .epoch).record rules .initial).totalScore.val : Int) = 0 := by
  intro rules gains merits reached
  have leveled : Reputation.initial.level = .ofScore Reputation.initial.totalScore.val := rfl
  have gaining : ∀ merit ∈ gains, merit.isGain = true := by decide
  have reversed : gains.Perm gains.reverse := (List.reverse_perm gains).symm
  obtain ⟨ordered, score, _, _, _, _, _, cancelled⟩ :=
    record_gains_in_any_order rules leveled gaining
  obtain ⟨notHigher, cut⟩ := cancelled merits rfl
  have top : reached.totalScore.val = 4294967295 := score.trans (by decide)
  exact ⟨leveled, gaining, reversed, rfl, ordered _ reversed, top,
    Nat.le_trans notHigher (Nat.le_of_eq top),
    (cut [] (cancellation .epoch) gains rfl).trans (by decide)⟩

end Merit

end TaskBoard
