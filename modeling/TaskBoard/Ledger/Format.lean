import TaskBoard.Ledger.Basic
import TaskBoard.Reputation.Format
import TaskBoard.Task.Format

/-!
# The ledger in JSON

An event is an object whose member `event` names what happened.
-/

namespace TaskBoard

/-- A category in JSON. -/
def Category.encode (category : Category) : Json := .string category.name

/-- A category from JSON. -/
def Category.decode : Decoder Category := .choice Category.choices

/-- A kind of notification in JSON. -/
def NotificationKind.encode (kind : NotificationKind) : Json := .string kind.name

/-- A kind of notification from JSON. -/
def NotificationKind.decode : Decoder NotificationKind := .choice NotificationKind.choices

namespace Notification

def idField : Field NotificationId := .required "id" Id.decode
def recipientField : Field Account := .required "recipient" Account.decode
def kindField : Field NotificationKind := .required "kind" NotificationKind.decode
def taskField : Field (Option TaskId) :=
  { Field.optional "task_id" Id.decode with ifShort := none }
def messageField : Field String := .required "message" .string
def readField : Field Bool := .required "read" .bool
def createdAtField : Field Instant := .required "created_at" .instant

/-- The fields of a notification in their order. -/
def slots : List Slot :=
  [idField.slot, recipientField.slot, kindField.slot, taskField.slot, messageField.slot,
    readField.slot, createdAtField.slot]

/-- The notification that the parts of a record make up. -/
def ofRecord (record : Record) : Except Decode.Problem Notification := do
  let id ← record.read 0 idField
  let recipient ← record.read 1 recipientField
  let kind ← record.read 2 kindField
  let task ← record.read 3 taskField
  let message ← record.read 4 messageField
  let isRead ← record.read 5 readField
  let createdAt ← record.read 6 createdAtField
  return { id, recipient, kind, task, message, isRead, createdAt }

/-- A notification from JSON. -/
def decode : Decoder Notification := Record.decode "struct Notification" slots ofRecord

/-- A notification in JSON. -/
def encode (notification : Notification) : Json :=
  .object [
    ("id", notification.id.encode),
    ("recipient", notification.recipient.encode),
    ("kind", notification.kind.encode),
    ("task_id", .ofOption Id.encode notification.task),
    ("message", .string notification.message),
    ("read", .bool notification.isRead),
    ("created_at", notification.createdAt.encode)]

end Notification

namespace Event

def taskField : Field TaskId := .required "task_id" Id.decode
def creatorField : Field Account := .required "creator" Account.decode
def titleField : Field String := .required "title" .string
def assigneeField : Field Account := .required "assignee" Account.decode
def oldStatusField : Field Status := .required "old_status" Status.decode
def newStatusField : Field Status := .required "new_status" Status.decode
def voterField : Field Account := .required "voter" Account.decode
def approveField : Field Bool := .required "approve" .bool
def evaluatorField : Field Account := .required "evaluator" Account.decode
def ratingField : Field Word8 := .required "rating" .word8
def accountField : Field Account := .required "account" Account.decode
def achievementField : Field String := .required "achievement" .string
def oldScoreField : Field Word32 := .required "old_score" .word32
def newScoreField : Field Word32 := .required "new_score" .word32
def oldLevelField : Field Level := .required "old_level" Level.decode
def newLevelField : Field Level := .required "new_level" Level.decode
def recipientField : Field Account := .required "recipient" Account.decode
def notificationField : Field NotificationId := .required "notification_id" Id.decode
def kindField : Field NotificationKind := .required "kind" NotificationKind.decode

/-- The title of the records of one kind of event. -/
def recordTitle (name : String) : String := "struct variant ChainEvent::" ++ name

/-- A created task from JSON. -/
def decodeCreated : Decoder Event :=
  Record.decode (recordTitle "TaskCreated")
    [taskField.slot, creatorField.slot, titleField.slot] fun record => do
      let task ← record.read 0 taskField
      let creator ← record.read 1 creatorField
      let title ← record.read 2 titleField
      return .taskCreated task creator title

/-- An assigned task from JSON. -/
def decodeAssigned : Decoder Event :=
  Record.decode (recordTitle "TaskAssigned")
    [taskField.slot, assigneeField.slot] fun record => do
      let task ← record.read 0 taskField
      let assignee ← record.read 1 assigneeField
      return .taskAssigned task assignee

/-- A changed status from JSON. -/
def decodeStatusChanged : Decoder Event :=
  Record.decode (recordTitle "TaskStatusChanged")
    [taskField.slot, oldStatusField.slot, newStatusField.slot] fun record => do
      let task ← record.read 0 taskField
      let before ← record.read 1 oldStatusField
      let after ← record.read 2 newStatusField
      return .statusChanged task before after

/-- A vote from JSON. -/
def decodeVoteSubmitted : Decoder Event :=
  Record.decode (recordTitle "VerificationVoteSubmitted")
    [taskField.slot, voterField.slot, approveField.slot] fun record => do
      let task ← record.read 0 taskField
      let voter ← record.read 1 voterField
      let approve ← record.read 2 approveField
      return .voteSubmitted task voter approve

/-- A rating from JSON. -/
def decodeEvaluated : Decoder Event :=
  Record.decode (recordTitle "TaskEvaluated")
    [taskField.slot, evaluatorField.slot, ratingField.slot] fun record => do
      let task ← record.read 0 taskField
      let evaluator ← record.read 1 evaluatorField
      let rating ← record.read 2 ratingField
      return .taskEvaluated task evaluator rating

/-- An achievement from JSON. -/
def decodeAchievement : Decoder Event :=
  Record.decode (recordTitle "AchievementUnlocked")
    [accountField.slot, achievementField.slot] fun record => do
      let account ← record.read 0 accountField
      let achievement ← record.read 1 achievementField
      return .achievementUnlocked account achievement

/-- A changed score from JSON. -/
def decodeScoreChanged : Decoder Event :=
  Record.decode (recordTitle "ReputationChanged")
    [accountField.slot, taskField.slot, oldScoreField.slot, newScoreField.slot] fun record => do
      let account ← record.read 0 accountField
      let task ← record.read 1 taskField
      let before ← record.read 2 oldScoreField
      let after ← record.read 3 newScoreField
      return .scoreChanged account task before after

/-- A higher level from JSON. -/
def decodeLevelUp : Decoder Event :=
  Record.decode (recordTitle "ReputationLevelUp")
    [accountField.slot, oldLevelField.slot, newLevelField.slot] fun record => do
      let account ← record.read 0 accountField
      let before ← record.read 1 oldLevelField
      let after ← record.read 2 newLevelField
      return .levelUp account before after

/-- A stored notification from JSON. -/
def decodeNotificationCreated : Decoder Event :=
  Record.decode (recordTitle "NotificationCreated")
    [recipientField.slot, notificationField.slot] fun record => do
      let recipient ← record.read 0 recipientField
      let notification ← record.read 1 notificationField
      return .notificationCreated recipient notification

/-- A pushed notification from JSON. -/
def decodeNotificationPushed : Decoder Event :=
  Record.decode (recordTitle "RealtimeNotificationPushed")
    [recipientField.slot, kindField.slot] fun record => do
      let recipient ← record.read 0 recipientField
      let kind ← record.read 1 kindField
      return .notificationPushed recipient kind

/-- An event from JSON. -/
def decode : Decoder Event :=
  .tagged "internally tagged enum ChainEvent" "event" [
    ("task_created", decodeCreated),
    ("task_assigned", decodeAssigned),
    ("task_status_changed", decodeStatusChanged),
    ("verification_vote_submitted", decodeVoteSubmitted),
    ("task_evaluated", decodeEvaluated),
    ("achievement_unlocked", decodeAchievement),
    ("reputation_changed", decodeScoreChanged),
    ("reputation_level_up", decodeLevelUp),
    ("notification_created", decodeNotificationCreated),
    ("realtime_notification_pushed", decodeNotificationPushed)]

/-- The name of what happened. -/
def name : Event → String
  | taskCreated .. => "task_created"
  | taskAssigned .. => "task_assigned"
  | statusChanged .. => "task_status_changed"
  | voteSubmitted .. => "verification_vote_submitted"
  | taskEvaluated .. => "task_evaluated"
  | achievementUnlocked .. => "achievement_unlocked"
  | scoreChanged .. => "reputation_changed"
  | levelUp .. => "reputation_level_up"
  | notificationCreated .. => "notification_created"
  | notificationPushed .. => "realtime_notification_pushed"

/-- The members of an event in JSON besides its name. -/
def members : Event → List (String × Json)
  | taskCreated task creator title =>
      [("task_id", task.encode), ("creator", creator.encode), ("title", .string title)]
  | taskAssigned task assignee => [("task_id", task.encode), ("assignee", assignee.encode)]
  | statusChanged task before after =>
      [("task_id", task.encode), ("old_status", before.encode), ("new_status", after.encode)]
  | voteSubmitted task voter approve =>
      [("task_id", task.encode), ("voter", voter.encode), ("approve", .bool approve)]
  | taskEvaluated task evaluator rating =>
      [("task_id", task.encode), ("evaluator", evaluator.encode), ("rating", rating.encode)]
  | achievementUnlocked account achievement =>
      [("account", account.encode), ("achievement", .string achievement)]
  | scoreChanged account task before after =>
      [("account", account.encode), ("task_id", task.encode), ("old_score", before.encode),
        ("new_score", after.encode)]
  | levelUp account before after =>
      [("account", account.encode), ("old_level", before.encode), ("new_level", after.encode)]
  | notificationCreated recipient notification =>
      [("recipient", recipient.encode), ("notification_id", notification.encode)]
  | notificationPushed recipient kind =>
      [("recipient", recipient.encode), ("kind", kind.encode)]

/-- An event in JSON. -/
def encode (event : Event) : Json := .object (("event", .string event.name) :: event.members)

end Event

/-- An evaluation in JSON. -/
def Evaluation.encode (evaluation : Evaluation) : Json :=
  .object [
    ("task_id", evaluation.task.encode),
    ("assignee", .ofOption Account.encode evaluation.assignee),
    ("evaluator", evaluation.evaluator.encode),
    ("rating", evaluation.rating.encode),
    ("comment", .string evaluation.comment),
    ("evaluated_at", evaluation.evaluatedAt.encode)]

end TaskBoard
