import TaskBoard.Number.Double
import TaskBoard.Task.Format

/-!
# Statistics

The statistics of a snapshot count its tasks by status, priority, difficulty and
reward, one task after the other.  Sums of rewards stop at the greatest reward.
-/

namespace TaskBoard

/-- How often each key was counted, for the keys that were, in ascending order. -/
abbrev Tally (κ : Type) := List (κ × Nat)

namespace Tally

variable {κ : Type} [DecidableEq κ]

/-- Count a key once more; `rank` is the place of a key in the order. -/
def increment (rank : κ → Nat) (key : κ) : Tally κ → Tally κ
  | [] => [(key, 1)]
  | (other, count) :: rest =>
      if rank key < rank other then (key, 1) :: (other, count) :: rest
      else if key = other then (other, count + 1) :: rest
      else (other, count) :: increment rank key rest

/-- How often a key was counted. -/
def countOf (tally : Tally κ) (key : κ) : Nat := (tally.lookup key).getD 0

end Tally

/-- A range of rewards, without end for the highest rewards. -/
structure RewardBand where
  least : Word64
  greatest : Option Word64
  deriving DecidableEq

namespace RewardBand

/-- The bands, which cover all rewards without overlap. -/
def all : List RewardBand :=
  [⟨0, some 100⟩, ⟨101, some 500⟩, ⟨501, some 1000⟩, ⟨1001, none⟩]

/-- Whether a reward lies in a band. -/
def contains (band : RewardBand) (reward : Word64) : Bool :=
  decide (band.least.val ≤ reward.val) &&
    match band.greatest with
    | none => true
    | some greatest => decide (reward.val ≤ greatest.val)

/-- The bounds of a band as they are shown. -/
def label (band : RewardBand) : String :=
  match band.greatest with
  | some greatest => toString band.least.val ++ "-" ++ toString greatest.val
  | none => toString band.least.val ++ "+"

end RewardBand

/-- The tasks that were counted for a band of rewards. -/
structure RewardBucket where
  band : RewardBand
  count : Nat
  totalReward : Word64
  deriving DecidableEq

namespace RewardBucket

/-- The bucket of a band before anything is counted. -/
def empty (band : RewardBand) : RewardBucket := ⟨band, 0, 0⟩

/-- The bucket with one more task. -/
def add (bucket : RewardBucket) (reward : Word64) : RewardBucket :=
  { bucket with count := bucket.count + 1, totalReward := bucket.totalReward.add reward }

/-- Count a task for the first bucket whose band has its reward. -/
def addToFirst (reward : Word64) : List RewardBucket → List RewardBucket
  | [] => []
  | bucket :: rest =>
      if bucket.band.contains reward then bucket.add reward :: rest
      else bucket :: addToFirst reward rest

end RewardBucket

/-- Counts and sums over the tasks of a snapshot. -/
structure Statistics where
  total : Nat
  pending : Nat
  inProgress : Nat
  completed : Nat
  cancelled : Nat
  pendingVerification : Nat
  byPriority : Tally Priority
  byDifficulty : Tally Nat
  buckets : List RewardBucket
  totalReward : Word64
  difficultySum : Nat
  /-- How many tasks are neither finished nor within their deadline. -/
  overdue : Nat

namespace Statistics

/-- The statistics of a number of tasks before any of them is counted. -/
def start (total : Nat) : Statistics where
  total
  pending := 0
  inProgress := 0
  completed := 0
  cancelled := 0
  pendingVerification := 0
  byPriority := []
  byDifficulty := []
  buckets := RewardBand.all.map RewardBucket.empty
  totalReward := 0
  difficultySum := 0
  overdue := 0

/-- Count a task of a status. -/
def addStatus (statistics : Statistics) : Status → Statistics
  | .pending => { statistics with pending := statistics.pending + 1 }
  | .inProgress => { statistics with inProgress := statistics.inProgress + 1 }
  | .completed => { statistics with completed := statistics.completed + 1 }
  | .cancelled => { statistics with cancelled := statistics.cancelled + 1 }
  | .pendingVerification =>
      { statistics with pendingVerification := statistics.pendingVerification + 1 }

/-- Count a task at an instant. -/
def add (now : Instant) (statistics : Statistics) (task : Task) : Statistics :=
  { statistics.addStatus task.status with
    byPriority := statistics.byPriority.increment Priority.ordinal task.priority
    byDifficulty := statistics.byDifficulty.increment id task.difficulty.level
    buckets := RewardBucket.addToFirst task.reward statistics.buckets
    totalReward := statistics.totalReward.add task.reward
    difficultySum := statistics.difficultySum + task.difficulty.level
    overdue :=
      if !task.isFinal && task.isExpired now then statistics.overdue + 1
      else statistics.overdue }

/-- The statistics of a snapshot at an instant. -/
def ofTasks (tasks : List Task) (now : Instant) : Statistics :=
  tasks.foldl (add now) (start tasks.length)

/-- How many tasks have a status. -/
def count (statistics : Statistics) : Status → Nat
  | .pending => statistics.pending
  | .inProgress => statistics.inProgress
  | .completed => statistics.completed
  | .cancelled => statistics.cancelled
  | .pendingVerification => statistics.pendingVerification

/-- How many tasks have a priority. -/
def countPriority (statistics : Statistics) (priority : Priority) : Nat :=
  statistics.byPriority.countOf priority

/-- How many tasks have a level of difficulty. -/
def countDifficulty (statistics : Statistics) (level : Nat) : Nat :=
  statistics.byDifficulty.countOf level

/-- The mean difficulty. -/
def averageDifficulty (statistics : Statistics) : Double :=
  Double.average statistics.difficultySum statistics.total

/-- A number of tasks as a percentage of all tasks. -/
def percentage (statistics : Statistics) (count : Nat) : Double :=
  Double.percentage count statistics.total

/-- The percentage of completed tasks. -/
def completionRate (statistics : Statistics) : Double :=
  statistics.percentage (statistics.count .completed)

/-- The members of a bucket in JSON. -/
def bucketMembers (bucket : RewardBucket) : List (String × Json) := [
  ("min", bucket.band.least.encode),
  ("max", .ofOption Bounded.encode bucket.band.greatest),
  ("count", .nat bucket.count),
  ("total_reward", bucket.totalReward.encode)]

/-- The members of statistics in JSON, with a given form of the buckets. -/
def membersWith (writeBucket : RewardBucket → Json) (statistics : Statistics) :
    List (String × Json) := [
  ("total", .nat statistics.total),
  ("pending", .nat (statistics.count .pending)),
  ("in_progress", .nat (statistics.count .inProgress)),
  ("completed", .nat (statistics.count .completed)),
  ("cancelled", .nat (statistics.count .cancelled)),
  ("pending_verification", .nat (statistics.count .pendingVerification)),
  ("by_priority", .object (statistics.byPriority.map fun (priority, count) =>
    (priority.name, .nat count))),
  ("by_difficulty", .object (statistics.byDifficulty.map fun (level, count) =>
    (toString level, .nat count))),
  ("reward_buckets", .array (statistics.buckets.map writeBucket)),
  ("total_reward", statistics.totalReward.encode),
  ("average_difficulty", .float false statistics.averageDifficulty),
  ("overdue", .nat statistics.overdue)]

/-- Statistics in JSON. -/
def encode (statistics : Statistics) : Json :=
  .object (statistics.membersWith fun bucket => .object (bucketMembers bucket))

end Statistics

end TaskBoard
