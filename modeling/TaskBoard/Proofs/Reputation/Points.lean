import TaskBoard.Reputation.Basic

/-!
# Points for ratings

A rating is worth a percentage of the base score.  The product is cut at the greatest
machine number before it is divided by a hundred, so that the points are exact up to a
hundredth of that number and never exceed it.
-/

namespace TaskBoard

namespace Bounded

variable {limit : Nat}

/-- A number that is cut before it is divided is the quotient, cut at the quotient of the
limit. -/
theorem div_cap_val (number divisor : Nat) :
    ((cap number : Bounded limit).div divisor).val = min (number / divisor) (limit / divisor) := by
  rw [div_val, cap_val]
  rcases Nat.le_total number limit with fits | exceeds
  · rw [Nat.min_eq_left fits, Nat.min_eq_left (Nat.div_le_div_right fits)]
  · rw [Nat.min_eq_right exceeds, Nat.min_eq_right (Nat.div_le_div_right exceeds)]

end Bounded

namespace Rules

/-- The points for a rating as the rules lay them down: the percentage of the base score,
without the remainder. -/
def share (rules : Rules) (rating : Nat) : Nat :=
  rules.baseScore.val * (multiplier rating).val / 100

/-- The most points that a rating can bring. -/
def greatestShare : Nat := 4294967295 / 100

/-- The percentages of the ratings are evenly spaced from a half on. -/
theorem multiplier_val {rating : Nat} (inRange : 1 ≤ rating ∧ rating ≤ 5) :
    (multiplier rating).val = 25 * (rating + 1) := by
  obtain ⟨positive, atMostFive⟩ := inRange
  obtain rfl | rfl | rfl | rfl | rfl :
      rating = 1 ∨ rating = 2 ∨ rating = 3 ∨ rating = 4 ∨ rating = 5 := by
    omega
  all_goals rfl

theorem ratingPoints_val (rules : Rules) (rating : Nat) :
    (rules.ratingPoints rating).val = min (rules.share rating) greatestShare :=
  Bounded.div_cap_val _ _

/-- Nothing of the share is lost exactly if it is at most a hundredth of the greatest
machine number. -/
theorem ratingPoints_val_eq_share_iff (rules : Rules) (rating : Nat) :
    (rules.ratingPoints rating).val = rules.share rating ↔ rules.share rating ≤ greatestShare := by
  rw [ratingPoints_val, Nat.min_def]
  split <;> omega

end Rules

namespace Reputation

/-- A rating brings the share of the base score that the rules lay down, cut at a hundredth
of the greatest machine number; the score rises by these points and stops at the greatest
machine number. -/
theorem score_of_rating (rules : Rules) (rating : Word8) (reputation : Reputation) (now : Instant)
    (inRange : 1 ≤ rating.val ∧ rating.val ≤ 5) :
    rules.share rating.val = rules.baseScore.val * (25 * (rating.val + 1)) / 100 ∧
      (rules.ratingPoints rating.val).val = min (rules.share rating.val) Rules.greatestShare ∧
      ((rules.ratingPoints rating.val).val = rules.share rating.val ↔
        rules.share rating.val ≤ Rules.greatestShare) ∧
      ((reputation.recordRating rules rating now).1.totalScore).val =
        min (reputation.totalScore.val + min (rules.share rating.val) Rules.greatestShare)
          4294967295 := by
  refine ⟨?_, rules.ratingPoints_val _, rules.ratingPoints_val_eq_share_iff _, ?_⟩
  · rw [Rules.share, Rules.multiplier_val inRange]
  · rw [← rules.ratingPoints_val]
    rfl

/-- With a base score of ten, the second-best rating brings twelve points and the rest of
the quotient is lost. -/
theorem score_of_rating_standard :
    (1 ≤ (4 : Word8).val ∧ (4 : Word8).val ≤ 5) ∧ Rules.standard.share 4 = 12 ∧
      (Rules.standard.ratingPoints 4).val = 12 ∧
      ((initial.recordRating Rules.standard 4 .epoch).1.totalScore).val = 12 := by
  have inRange : 1 ≤ (4 : Word8).val ∧ (4 : Word8).val ≤ 5 := by decide
  obtain ⟨share, _, exact, score⟩ := score_of_rating Rules.standard 4 initial .epoch inRange
  exact ⟨inRange, share, exact.mpr (by decide), score⟩

/-- A base score of a hundred millions is a score, and so is the whole of it; but the rating
that is worth the whole of it brings less than half of that. -/
theorem points_cut_before_division :
    ∃ rules : Rules, ∃ rating : Word8, (1 ≤ rating.val ∧ rating.val ≤ 5) ∧
      rules.share rating.val ≤ 4294967295 ∧
      (rules.ratingPoints rating.val).val ≠ rules.share rating.val ∧
      ((initial.recordRating rules rating .epoch).1.totalScore).val ≠
        min (initial.totalScore.val + rules.share rating.val) 4294967295 :=
  ⟨⟨100000000, 0, 0⟩, 3, by decide⟩

end Reputation

end TaskBoard
