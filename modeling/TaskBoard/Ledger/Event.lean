import TaskBoard.Reputation.Level
import TaskBoard.Task.Basic

/-!
# Events and notifications

Every successful transaction publishes events, each of which belongs to a
category, and may leave notifications for the accounts concerned.
-/

namespace TaskBoard

/-- What subscribers can listen to. -/
inductive Category where
  | tasks
  | verification
  | achievements
  | reputation
  | notifications
  deriving DecidableEq, Repr

namespace Category

/-- All categories. -/
def all : List Category := [tasks, verification, achievements, reputation, notifications]

/-- The name of a category. -/
def name : Category → String
  | tasks => "tasks"
  | verification => "verification"
  | achievements => "achievements"
  | reputation => "reputation"
  | notifications => "notifications"

/-- Each category with its name. -/
def choices : List (String × Category) := all.map fun category => (category.name, category)

end Category

/-- What a notification is about. -/
inductive NotificationKind where
  | taskAssigned
  | taskStatusChanged
  | verificationRequested
  | achievementUnlocked
  | reputationLevelUp
  deriving DecidableEq, Repr

namespace NotificationKind

/-- All kinds. -/
def all : List NotificationKind :=
  [taskAssigned, taskStatusChanged, verificationRequested, achievementUnlocked,
    reputationLevelUp]

/-- The name of a kind. -/
def name : NotificationKind → String
  | taskAssigned => "task_assigned"
  | taskStatusChanged => "task_status_changed"
  | verificationRequested => "verification_requested"
  | achievementUnlocked => "achievement_unlocked"
  | reputationLevelUp => "reputation_level_up"

/-- Each kind with its name. -/
def choices : List (String × NotificationKind) := all.map fun kind => (kind.name, kind)

end NotificationKind

/-- A message that the ledger keeps for an account. -/
structure Notification where
  id : NotificationId
  recipient : Account
  kind : NotificationKind
  task : Option TaskId
  message : String
  isRead : Bool
  createdAt : Instant
  deriving DecidableEq

/-- Something that happened on the ledger. -/
inductive Event where
  | taskCreated (task : TaskId) (creator : Account) (title : String)
  | taskAssigned (task : TaskId) (assignee : Account)
  | statusChanged (task : TaskId) (before after : Status)
  | voteSubmitted (task : TaskId) (voter : Account) (approve : Bool)
  | taskEvaluated (task : TaskId) (evaluator : Account) (rating : Word8)
  | achievementUnlocked (account : Account) (achievement : String)
  | scoreChanged (account : Account) (task : TaskId) (before after : Word32)
  | levelUp (account : Account) (before after : Level)
  | notificationCreated (recipient : Account) (notification : NotificationId)
  | notificationPushed (recipient : Account) (kind : NotificationKind)
  deriving DecidableEq

namespace Event

/-- The category of an event. -/
def category : Event → Category
  | taskCreated .. => .tasks
  | taskAssigned .. => .tasks
  | statusChanged .. => .tasks
  | voteSubmitted .. => .verification
  | taskEvaluated .. => .tasks
  | achievementUnlocked .. => .achievements
  | scoreChanged .. => .reputation
  | levelUp .. => .reputation
  | notificationCreated .. => .notifications
  | notificationPushed .. => .notifications

/-- The account that an event is addressed to, if it is addressed to one. -/
def recipient? : Event → Option Account
  | notificationCreated recipient _ => some recipient
  | notificationPushed recipient _ => some recipient
  | achievementUnlocked account _ => some account
  | scoreChanged account _ _ _ => some account
  | levelUp account _ _ => some account
  | _ => none

end Event

/-- The events that announce a stored notification. -/
def Notification.announcements (notification : Notification) : List Event :=
  [.notificationCreated notification.recipient notification.id,
    .notificationPushed notification.recipient notification.kind]

end TaskBoard
