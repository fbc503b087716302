import Mathlib.Data.List.Perm.Basic
import TaskBoard.Proofs.Number.CappedSums
import TaskBoard.Proofs.Statistics.Counting

/-!
# Statistics of snapshots that are put together

The statistics of two snapshots together are those of the one and of the other added
up, where sums of rewards stop at the greatest reward.  Counting one task and then
another is the same as counting them the other way round, so the order of a snapshot
does not show in its statistics (`Statistics.ofTasks_eq_of_perm`).
-/

namespace TaskBoard

/-! ### One task before another -/

/-- Two keys are counted in either order. -/
theorem Tally.increment_right_comm {κ : Type} [DecidableEq κ] {rank : κ → Nat}
    (ranked : Function.Injective rank) (tally : Tally κ) (key other : κ) :
    (tally.increment rank key).increment rank other =
      (tally.increment rank other).increment rank key := by
  induction tally with
  | nil =>
      simp only [increment]
      grind [ranked.eq_iff]
  | cons entry rest ih =>
      -- Each key stands before the first entry, is counted there, or goes behind it, where
      -- the induction hypothesis applies if both keys do.
      simp only [increment]
      grind [increment]

namespace RewardBucket

theorem add_right_comm (bucket : RewardBucket) (first second : Word64) :
    (bucket.add first).add second = (bucket.add second).add first := by
  simp only [add, Bounded.add_right_comm bucket.totalReward first second]

/-- Two rewards are counted in either order. -/
theorem addToFirst_right_comm (buckets : List RewardBucket) (first second : Word64) :
    addToFirst second (addToFirst first buckets) =
      addToFirst first (addToFirst second buckets) := by
  induction buckets with
  | nil => rfl
  | cons bucket rest ih =>
      have sameBand (reward : Word64) : (bucket.add reward).band = bucket.band := rfl
      by_cases hasFirst : bucket.band.contains first
      · by_cases hasSecond : bucket.band.contains second
        · simp [addToFirst, hasFirst, hasSecond, sameBand, add_right_comm bucket first second]
        · simp [addToFirst, hasFirst, hasSecond, sameBand]
      · by_cases hasSecond : bucket.band.contains second
        · simp [addToFirst, hasFirst, hasSecond, sameBand]
        · simp [addToFirst, hasFirst, hasSecond, ih]

/-- The bucket that has counted what two buckets of one band have. -/
def join (left right : RewardBucket) : RewardBucket :=
  ⟨left.band, left.count + right.count, left.totalReward.add right.totalReward⟩

theorem ofRewards_append (left right : List Word64) (band : RewardBand) :
    ofRewards (left ++ right) band = (ofRewards left band).join (ofRewards right band) := by
  simp [ofRewards, join, Bounded.sum_append]

end RewardBucket

/-- Whether a task is neither finished nor within its deadline. -/
def Task.isOverdue (task : Task) (now : Instant) : Bool := !task.isFinal && task.isExpired now

namespace Statistics

/-- Two tasks are counted in either order. -/
theorem add_right_comm (statistics : Statistics) (now : Instant) (first second : Task) :
    (statistics.add now first).add now second = (statistics.add now second).add now first := by
  have priorities := statistics.byPriority.increment_right_comm Priority.ordinal_injective
    first.priority second.priority
  have difficulties := statistics.byDifficulty.increment_right_comm Function.injective_id
    first.difficulty.level second.difficulty.level
  have buckets := RewardBucket.addToFirst_right_comm statistics.buckets first.reward second.reward
  have rewards := statistics.totalReward.add_right_comm first.reward second.reward
  have levels := Nat.add_right_comm statistics.difficultySum first.difficulty.level
    second.difficulty.level
  cases isFirst : first.status <;> cases isSecond : second.status <;>
    simp only [add, addStatus, isFirst, isSecond, priorities, difficulties, buckets, rewards,
      levels, Statistics.mk.injEq, true_and]
  -- What is left is the number of overdue tasks, which neither, one or both of them raise.
  all_goals split_ifs <;> rfl

/-- Statistics do not show in which order the tasks are listed. -/
theorem ofTasks_eq_of_perm {tasks other : List Task} (permuted : tasks.Perm other)
    (now : Instant) : ofTasks tasks now = ofTasks other now := by
  rw [ofTasks, ofTasks, permuted.length_eq]
  exact permuted.foldl_eq' (fun first _ second _ statistics =>
    add_right_comm statistics now first second) _

theorem overdue_ofTasks (tasks : List Task) (now : Instant) :
    (ofTasks tasks now).overdue = tasks.countP fun task => task.isOverdue now := by
  apply ofTasks_induction (motive := fun counted statistics =>
    statistics.overdue = counted.countP fun task => task.isOverdue now)
  · rfl
  · intro counted statistics task soFar
    have added : (statistics.add now task).overdue =
        if task.isOverdue now then statistics.overdue + 1 else statistics.overdue := rfl
    rw [added, soFar, List.countP_append, List.countP_singleton]
    split <;> rfl

theorem totalReward_ofTasks (tasks : List Task) (now : Instant) :
    (ofTasks tasks now).totalReward = Bounded.sum (tasks.map Task.reward) := by
  apply ofTasks_induction (motive := fun counted statistics =>
    statistics.totalReward = Bounded.sum (counted.map Task.reward))
  · rfl
  · intro counted statistics task soFar
    have added : (statistics.add now task).totalReward = statistics.totalReward.add task.reward :=
      rfl
    rw [added, soFar, List.map_append, List.map_singleton, Bounded.sum, Bounded.sum,
      List.foldl_append]
    rfl

/-- The total of all rewards is that of the buckets together. -/
theorem sum_totalReward_buckets (tasks : List Task) (now : Instant) :
    Bounded.sum ((ofTasks tasks now).buckets.map RewardBucket.totalReward) =
      (ofTasks tasks now).totalReward := by
  let rewards := tasks.map Task.reward
  let sumOf (band : RewardBand) : Nat := ((rewards.filter band.contains).map Bounded.val).sum
  have classified : (RewardBand.all.map sumOf).sum = (rewards.map Bounded.val).sum :=
    sum_map_sum_filter RewardBand.countP_contains Bounded.val rewards
  apply Bounded.ext
  rw [(counted_ofTasks tasks now).buckets, totalReward_ofTasks, Bounded.sum_val, Bounded.sum_val,
    ← classified, ← min_sum_map_min (RewardBand.all.map sumOf)]
  simp only [List.map_map]
  congr 3
  funext band
  exact Bounded.sum_val _

/-- The statistics of two snapshots together have the counts of both added up, and the sums
of rewards added up and stopped at the greatest reward.  They do not show in which order
the tasks are listed.  The total of all rewards is their exact sum, stopped at the greatest
reward, and so is the sum of the totals of the buckets. -/
theorem statistics_of_append (first second : List Task) (now : Instant) :
    let left := ofTasks first now
    let right := ofTasks second now
    let both := ofTasks (first ++ second) now
    both.total = left.total + right.total ∧
    (∀ status, both.count status = left.count status + right.count status) ∧
    (∀ priority, both.countPriority priority =
      left.countPriority priority + right.countPriority priority) ∧
    (∀ level, both.countDifficulty level =
      left.countDifficulty level + right.countDifficulty level) ∧
    both.overdue = left.overdue + right.overdue ∧
    left.buckets.map RewardBucket.band = RewardBand.all ∧
    right.buckets.map RewardBucket.band = RewardBand.all ∧
    both.buckets = List.zipWith RewardBucket.join left.buckets right.buckets ∧
    both.totalReward.val =
      min (left.totalReward.val + right.totalReward.val) 18446744073709551615 ∧
    (∀ other, first.Perm other → ofTasks other now = left) ∧
    left.totalReward.val = min (first.map fun task => task.reward.val).sum 18446744073709551615 ∧
    left.totalReward.val =
      min (left.buckets.map fun bucket => bucket.totalReward.val).sum 18446744073709551615 := by
  intro left right both
  have ofLeft : Counted first left := counted_ofTasks first now
  have ofRight : Counted second right := counted_ofTasks second now
  have ofBoth : Counted (first ++ second) both := counted_ofTasks (first ++ second) now
  refine ⟨?_, ?_, ?_, ?_, ?_, ?_, ?_, ?_, ?_, ?_, ?_, ?_⟩
  · simp only [left, right, both, total_ofTasks, List.length_append]
  · intro status
    rw [ofLeft.count, ofRight.count, ofBoth.count, List.countP_append]
  · intro priority
    simp only [countPriority, ofLeft.byPriority.countOf, ofRight.byPriority.countOf,
      ofBoth.byPriority.countOf, List.map_append, List.count_append]
  · intro level
    simp only [countDifficulty, ofLeft.byDifficulty.countOf, ofRight.byDifficulty.countOf,
      ofBoth.byDifficulty.countOf, List.map_append, List.count_append]
  · simp only [left, right, both, overdue_ofTasks, List.countP_append]
  · rw [ofLeft.buckets, List.map_map]
    exact List.map_id _
  · rw [ofRight.buckets, List.map_map]
    exact List.map_id _
  · rw [ofLeft.buckets, ofRight.buckets, ofBoth.buckets, List.zipWith_map]
    simp [List.zipWith_self, RewardBucket.ofRewards_append]
  · simp only [left, right, both, totalReward_ofTasks, List.map_append, Bounded.sum_append,
      Bounded.add_val]
  · intro other permuted
    exact (ofTasks_eq_of_perm permuted now).symm
  · simp only [left, totalReward_ofTasks, Bounded.sum_val, List.map_map]
    rfl
  · rw [← sum_totalReward_buckets first now, Bounded.sum_val, List.map_map]
    rfl

/-- A snapshot that holds the greatest reward keeps that total, whatever the order of its
tasks and whatever is added to it; the tasks are still counted. -/
theorem statistics_of_append_greatest :
    let rewarded (reward : Word64) : Task :=
      { Task.fresh ⟨1, by decide⟩ "Review" ⟨"alice"⟩ .epoch with reward }
    let first := [rewarded 18446744073709551615, rewarded 500]
    let second := [rewarded 2]
    first.Perm first.reverse ∧ ofTasks first.reverse .epoch = ofTasks first .epoch ∧
      (ofTasks (first ++ second) .epoch).count .pending = 3 ∧
      (ofTasks (first ++ second) .epoch).totalReward.val = 18446744073709551615 := by
  intro rewarded first second
  have reversed : first.Perm first.reverse := (List.reverse_perm first).symm
  obtain ⟨_, count, _, _, _, _, _, _, total, ordered, _⟩ :=
    statistics_of_append first second .epoch
  exact ⟨reversed, ordered _ reversed, (count .pending).trans (by decide),
    total.trans (by decide)⟩

end Statistics

end TaskBoard
