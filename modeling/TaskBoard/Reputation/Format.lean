import TaskBoard.Reputation.Basic
import TaskBoard.Task.Format

/-!
# Reputations in JSON
-/

namespace TaskBoard

/-- A level in JSON. -/
def Level.encode (level : Level) : Json := .string level.name

/-- A level from JSON. -/
def Level.decode : Decoder Level := .choice Level.choices

namespace Rules

def baseScoreField : Field Word32 := .required "base_score" .word32
def difficultyBonusField : Field Word32 := .required "difficulty_bonus" .word32
def cancellationPenaltyField : Field Word32 := .required "cancellation_penalty" .word32

/-- The fields of rules in their order. -/
def slots : List Slot :=
  [baseScoreField.slot, difficultyBonusField.slot, cancellationPenaltyField.slot]

/-- The rules that the parts of a record make up. -/
def ofRecord (record : Record) : Except Decode.Problem Rules := do
  let baseScore ← record.read 0 baseScoreField
  let difficultyBonus ← record.read 1 difficultyBonusField
  let cancellationPenalty ← record.read 2 cancellationPenaltyField
  return { baseScore, difficultyBonus, cancellationPenalty }

/-- Rules from JSON. -/
def decode : Decoder Rules := Record.decode "struct ReputationRules" slots ofRecord

/-- Rules in JSON. -/
def encode (rules : Rules) : Json :=
  .object [
    ("base_score", rules.baseScore.encode),
    ("difficulty_bonus", rules.difficultyBonus.encode),
    ("cancellation_penalty", rules.cancellationPenalty.encode)]

end Rules

namespace Reputation

def totalScoreField : Field Word32 := .required "total_score" .word32
def levelField : Field Level := .required "level" Level.decode
def completedTasksField : Field Word32 := .required "completed_tasks" .word32
def cancelledTasksField : Field Word32 := .required "cancelled_tasks" .word32
def totalRatingsField : Field Word32 := .required "total_ratings" .word32
def ratingSumField : Field Word32 := .required "rating_sum" .word32
def lastUpdatedField : Field (Option Instant) := .optional "last_updated" .instant

/-- The fields of a reputation in their order. -/
def slots : List Slot :=
  [totalScoreField.slot, levelField.slot, completedTasksField.slot, cancelledTasksField.slot,
    totalRatingsField.slot, ratingSumField.slot, lastUpdatedField.slot]

/-- The reputation that the parts of a record make up. -/
def ofRecord (record : Record) : Except Decode.Problem Reputation := do
  let totalScore ← record.read 0 totalScoreField
  let level ← record.read 1 levelField
  let completedTasks ← record.read 2 completedTasksField
  let cancelledTasks ← record.read 3 cancelledTasksField
  let totalRatings ← record.read 4 totalRatingsField
  let ratingSum ← record.read 5 ratingSumField
  let lastUpdated ← record.read 6 lastUpdatedField
  return { totalScore, level, completedTasks, cancelledTasks, totalRatings, ratingSum,
           lastUpdated }

/-- A reputation from JSON. -/
def decode : Decoder Reputation := Record.decode "struct UserReputation" slots ofRecord

/-- The members of a reputation in JSON. -/
def members (reputation : Reputation) : List (String × Json) := [
  ("total_score", reputation.totalScore.encode),
  ("level", reputation.level.encode),
  ("completed_tasks", reputation.completedTasks.encode),
  ("cancelled_tasks", reputation.cancelledTasks.encode),
  ("total_ratings", reputation.totalRatings.encode),
  ("rating_sum", reputation.ratingSum.encode),
  ("last_updated", .ofOption Instant.encode reputation.lastUpdated)]

/-- A reputation in JSON. -/
def encode (reputation : Reputation) : Json := .object reputation.members

end Reputation

end TaskBoard
