import TaskBoard.Number.Double
import TaskBoard.Reputation.Level
import TaskBoard.Task.Basic

/-!
# Reputation

An account earns points for the tasks it completes and for the ratings of its
work, and loses points for cancelled tasks.  Scores and counters stop at their
greatest number, and scores stop at zero.
-/

namespace TaskBoard

/-- How many points are earned and lost. -/
structure Rules where
  baseScore : Word32
  /-- Points for each level of difficulty. -/
  difficultyBonus : Word32
  cancellationPenalty : Word32
  deriving DecidableEq

namespace Rules

/-- The rules where nothing else is laid down. -/
def standard : Rules := ⟨10, 2, 5⟩

instance : Inhabited Rules := ⟨standard⟩

/-- The percentage of the base score that a rating is worth. -/
def multiplier (rating : Nat) : Word32 :=
  match rating with
  | 1 => 50
  | 2 => 75
  | 3 => 100
  | 4 => 125
  | 5 => 150
  | _ => 0

/-- The points for a completed task: the base score and the bonus for its difficulty. -/
def completionPoints (rules : Rules) (difficulty : Difficulty) : Word32 :=
  rules.baseScore.add ((Bounded.cap difficulty.level).mul rules.difficultyBonus)

/-- The points for a rating: the percentage of the base score, where the product
stops at the greatest number before it is divided. -/
def ratingPoints (rules : Rules) (rating : Nat) : Word32 :=
  (rules.baseScore.mul (multiplier rating)).div 100

end Rules

/-- A change of a score. -/
structure ScoreChange where
  oldScore : Word32
  newScore : Word32
  oldLevel : Level
  newLevel : Level
  deriving DecidableEq

/-- Whether the change leads to a higher level. -/
def ScoreChange.leveledUp (change : ScoreChange) : Bool :=
  decide (change.oldLevel.rank < change.newLevel.rank)

/-- The reputation of an account. -/
structure Reputation where
  totalScore : Word32
  level : Level
  completedTasks : Word32
  cancelledTasks : Word32
  totalRatings : Word32
  ratingSum : Word32
  lastUpdated : Option Instant
  deriving DecidableEq

namespace Reputation

/-- The reputation of an account of which nothing is known. -/
def initial : Reputation where
  totalScore := 0
  level := .newcomer
  completedTasks := 0
  cancelledTasks := 0
  totalRatings := 0
  ratingSum := 0
  lastUpdated := none

instance : Inhabited Reputation := ⟨initial⟩

/-- The mean rating. -/
def averageRating (reputation : Reputation) : Double :=
  Double.average reputation.ratingSum.val reputation.totalRatings.val

/-- The percentage of completed tasks among those completed or cancelled. -/
def completionRate (reputation : Reputation) : Double :=
  Double.percentage reputation.completedTasks.val
    (reputation.completedTasks.val + reputation.cancelledTasks.val)

/-- The points that are missing to the next level, if there is one. -/
def pointsToNextLevel (reputation : Reputation) : Option Nat :=
  reputation.level.next.map fun next => next.minScore - reputation.totalScore.val

/-- The percentage of the present level that is behind the account. -/
def levelProgress (reputation : Reputation) : Double :=
  match reputation.level.maxScore with
  | none => Double.percentage 1 1
  | some greatest =>
      Double.percentage (reputation.totalScore.val - reputation.level.minScore)
        (greatest - reputation.level.minScore)

/-- The reputation with another score, and the change that this is. -/
def rescore (reputation : Reputation) (score : Word32) (now : Instant) :
    Reputation × ScoreChange :=
  let level := Level.ofScore score.val
  ({ reputation with totalScore := score, level, lastUpdated := some now },
    { oldScore := reputation.totalScore
      newScore := score
      oldLevel := reputation.level
      newLevel := level })

/-- The reputation after a completed task. -/
def recordCompletion (reputation : Reputation) (rules : Rules) (difficulty : Difficulty)
    (now : Instant) : Reputation × ScoreChange :=
  rescore { reputation with completedTasks := reputation.completedTasks.add 1 }
    (reputation.totalScore.add (rules.completionPoints difficulty)) now

/-- The reputation after a rating. -/
def recordRating (reputation : Reputation) (rules : Rules) (rating : Word8) (now : Instant) :
    Reputation × ScoreChange :=
  rescore
    { reputation with
      totalRatings := reputation.totalRatings.add 1
      ratingSum := reputation.ratingSum.add (Bounded.cap rating.val) }
    (reputation.totalScore.add (rules.ratingPoints rating.val)) now

/-- The reputation after a cancelled task. -/
def recordCancellation (reputation : Reputation) (rules : Rules) (now : Instant) :
    Reputation × ScoreChange :=
  rescore { reputation with cancelledTasks := reputation.cancelledTasks.add 1 }
    (reputation.totalScore.sub rules.cancellationPenalty) now

end Reputation

end TaskBoard
