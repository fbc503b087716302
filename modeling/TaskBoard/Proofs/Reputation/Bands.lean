import Mathlib.Order.Bounds.Basic
import Mathlib.Tactic.SplitIfs
import TaskBoard.Reputation.Basic

/-!
# Bands of scores

A level is known by the least score of its band, by the level above it and by the scores
that belong to it.  `minScore_le_iff` relates the first of these to the last: a score
reaches a level exactly if its own level is that one or a higher one.  Everything else on
bands follows from it, so that no other statement looks at the numbers.
-/

namespace TaskBoard

namespace Level

/-- A score reaches a level exactly if its own level is that one or a higher one. -/
theorem minScore_le_iff (level : Level) (score : Nat) :
    level.minScore ≤ score ↔ level.rank ≤ (ofScore score).rank := by
  unfold ofScore
  cases level
  all_goals
    split_ifs
    all_goals
      simp only [minScore, rank]
      omega

theorem rank_ofScore_le {low high : Nat} (le : low ≤ high) :
    (ofScore low).rank ≤ (ofScore high).rank := by
  have reached : (ofScore low).minScore ≤ low := (minScore_le_iff _ low).mpr (Nat.le_refl _)
  exact (minScore_le_iff _ high).mp (Nat.le_trans reached le)

/-- A score lies in the band of a level. -/
def Covers (level : Level) (score : Nat) : Prop :=
  level.minScore ≤ score ∧ ∀ greatest ∈ level.maxScore, score ≤ greatest

/-! ### The level above -/

theorem next_eq_none_iff {level : Level} : level.next = none ↔ level = .legendary := by
  cases level <;> simp [next]

/-- Between a level and the next one there is no other. -/
theorem rank_of_next {level above : Level} (isNext : level.next = some above) :
    above.rank = level.rank + 1 := by
  cases level <;> cases isNext <;> rfl

/-- Where no level is next, none is higher. -/
theorem rank_le_of_next_eq_none {level : Level} (last : level.next = none) (other : Level) :
    other.rank ≤ level.rank := by
  rw [next_eq_none_iff.mp last]
  cases other <;> decide

/-- A score comes to a higher level exactly if it reaches the next one. -/
theorem rank_lt_rank_ofScore_iff {level above : Level} (isNext : level.next = some above)
    (score : Nat) : level.rank < (ofScore score).rank ↔ above.minScore ≤ score := by
  rw [minScore_le_iff, rank_of_next isNext, Nat.succ_le_iff]

/-! ### The scores of a level -/

theorem ofScore_minScore (level : Level) : ofScore level.minScore = level := by
  cases level <;> rfl

theorem minScore_le_limit (level : Level) : level.minScore ≤ 4294967295 := by
  cases level <;> decide

/-- The lowest score does not reach a level that is next to another one. -/
theorem minScore_pos {level above : Level} (isNext : level.next = some above) :
    0 < above.minScore := by
  rw [← Nat.not_le, ← rank_lt_rank_ofScore_iff isNext]
  exact Nat.not_lt_zero level.rank

/-- A score is not above the band of a level exactly if its own level is not higher. -/
theorem forall_le_maxScore_iff (level : Level) (score : Nat) :
    (∀ greatest ∈ level.maxScore, score ≤ greatest) ↔ (ofScore score).rank ≤ level.rank := by
  cases isNext : level.next with
  | none => simp [maxScore, isNext, rank_le_of_next_eq_none isNext]
  | some above =>
      have positive := minScore_pos isNext
      have single : level.maxScore = some (above.minScore - 1) := by
        rw [maxScore, isNext, Option.map_some]
      rw [single, ← Nat.not_lt, rank_lt_rank_ofScore_iff isNext]
      simp only [Option.mem_some, forall_eq']
      omega

/-- The scores of a level are those in its band. -/
theorem ofScore_eq_iff {level : Level} {score : Nat} :
    ofScore score = level ↔ level.Covers score := by
  rw [Covers, minScore_le_iff, forall_le_maxScore_iff, ← rank_inj]
  omega

theorem existsUnique_covers (score : Nat) : ∃! level : Level, level.Covers score :=
  ⟨ofScore score, ofScore_eq_iff.mp rfl, fun _ covers => (ofScore_eq_iff.mpr covers).symm⟩

end Level

namespace Reputation

variable {reputation : Reputation} {above : Level}

theorem pointsToNextLevel_eq_none_iff :
    reputation.pointsToNextLevel = none ↔ reputation.level = .legendary := by
  rw [pointsToNextLevel, Option.map_eq_none_iff, Level.next_eq_none_iff]

/-- At its own level, a score does not reach the next one. -/
theorem totalScore_lt_minScore (leveled : reputation.level = .ofScore reputation.totalScore.val)
    (isNext : reputation.level.next = some above) :
    reputation.totalScore.val < above.minScore := by
  rw [← Nat.not_le, ← Level.rank_lt_rank_ofScore_iff isNext, leveled]
  exact Nat.lt_irrefl _

/-- The points that are missing to the next level are the fewest that lead to a higher one. -/
theorem isLeast_missing (leveled : reputation.level = .ofScore reputation.totalScore.val)
    (isNext : reputation.level.next = some above) :
    IsLeast {points | 1 ≤ points ∧ reputation.level.rank <
        (Level.ofScore (reputation.totalScore.val + points)).rank}
      (above.minScore - reputation.totalScore.val) := by
  have short := totalScore_lt_minScore leveled isNext
  simp only [Level.rank_lt_rank_ofScore_iff isNext]
  constructor
  · exact ⟨by omega, by omega⟩
  · rintro points ⟨_, reached⟩
    omega

/-- Nothing is missing exactly at the highest level.  Otherwise the points that are missing
are the fewest that lead from the score to a higher level, and they lead to the next one.
Every score is in the band of one level, its own, and no band is empty. -/
theorem missing_points_reach_next_band (reputation : Reputation)
    (leveled : reputation.level = .ofScore reputation.totalScore.val) :
    (reputation.pointsToNextLevel = none ↔ reputation.level = .legendary) ∧
    (∀ points, reputation.pointsToNextLevel = some points →
      IsLeast {points | 1 ≤ points ∧ reputation.level.rank <
          (Level.ofScore (reputation.totalScore.val + points)).rank} points ∧
        reputation.totalScore.val + points ≤ 4294967295 ∧
        reputation.level.next = some (.ofScore (reputation.totalScore.val + points))) ∧
    (∀ (score : Word32) (level : Level),
      Level.ofScore score.val = level ↔ level.Covers score.val) ∧
    (∀ score : Word32, ∃! level : Level, level.Covers score.val) ∧
    ∀ level : Level, ∃ score : Word32, level.Covers score.val := by
  refine ⟨pointsToNextLevel_eq_none_iff, ?_, fun _ _ => Level.ofScore_eq_iff,
    fun score => Level.existsUnique_covers score.val, ?_⟩
  · intro points missing
    obtain ⟨above, isNext, rfl⟩ := Option.map_eq_some_iff.mp missing
    have short := totalScore_lt_minScore leveled isNext
    have reached : reputation.totalScore.val + (above.minScore - reputation.totalScore.val) =
        above.minScore := Nat.add_sub_cancel' (Nat.le_of_lt short)
    refine ⟨isLeast_missing leveled isNext, ?_, ?_⟩
    · rw [reached]
      exact above.minScore_le_limit
    · rw [reached, Level.ofScore_minScore, isNext]
  · intro level
    exact ⟨⟨level.minScore, level.minScore_le_limit⟩,
      Level.ofScore_eq_iff.mp level.ofScore_minScore⟩

/-- A master at the upper end of the band misses one point, which leads to the highest level. -/
theorem missing_points_reach_next_band_lastMaster :
    let reputation := { initial with totalScore := 1500, level := .master }
    reputation.level = .ofScore reputation.totalScore.val ∧
      reputation.pointsToNextLevel = some 1 ∧
      IsLeast {points | 1 ≤ points ∧ reputation.level.rank <
        (Level.ofScore (reputation.totalScore.val + points)).rank} 1 ∧
      reputation.level.next = some (.ofScore 1501) := by
  intro reputation
  have leveled : reputation.level = .ofScore reputation.totalScore.val := by decide
  have missing : reputation.pointsToNextLevel = some 1 := by decide
  obtain ⟨least, _, isNext⟩ := (missing_points_reach_next_band reputation leveled).2.1 1 missing
  exact ⟨leveled, missing, least, isNext⟩

end Reputation

end TaskBoard
