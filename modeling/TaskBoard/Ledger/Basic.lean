import TaskBoard.Ledger.Event
import TaskBoard.Ledger.Refusal
import TaskBoard.Reputation.Basic

/-!
# The ledger

The ledger holds the tasks, the ballots of verifications that are under way, the
evaluations, the notifications, the accounts that have completed a task and the
reputations, together with the last numbers given to tasks and notifications.

Every write of a part of the ledger is a small function of its own, and every
question to the ledger is a function that leaves it as it is.
-/

namespace TaskBoard

/-- A vote in a verification that is under way. -/
structure Ballot where
  task : TaskId
  voter : Account
  approve : Bool
  deriving DecidableEq

/-- A rating of a completed task. -/
structure Evaluation where
  task : TaskId
  /-- Who was assigned when the rating was given. -/
  assignee : Option Account
  evaluator : Account
  rating : Word8
  comment : String
  evaluatedAt : Instant
  deriving DecidableEq

/-- The state of the ledger. -/
structure Ledger where
  /-- The tasks by ascending identifier. -/
  tasks : List Task
  lastTask : Word32
  ballots : List Ballot
  evaluations : List Evaluation
  /-- The notifications by ascending identifier. -/
  notifications : List Notification
  lastNotification : Word32
  /-- The accounts that have completed a task. -/
  achievers : List Account
  /-- The accounts whose reputation has ever changed. -/
  reputations : List (Account × Reputation)
  rules : Rules
  offline : Bool
  deriving DecidableEq

namespace Ledger

/-- The number of votes that decides a verification. -/
def quorum : Nat := 3

/-- Put a task among tasks with ascending identifiers, in place of one with the
same identifier. -/
def putTask (task : Task) : List Task → List Task
  | [] => [task]
  | other :: rest =>
      if task.id.toNat < other.id.toNat then task :: other :: rest
      else if task.id = other.id then task :: rest
      else other :: putTask task rest

/-- Change the task with an identifier. -/
def changeTask (id : TaskId) (change : Task → Task) (tasks : List Task) : List Task :=
  tasks.map fun task => if task.id = id then change task else task

/-- Put a reputation in place of the one that an account has, or behind the others. -/
def putReputation (account : Account) (reputation : Reputation) :
    List (Account × Reputation) → List (Account × Reputation)
  | [] => [(account, reputation)]
  | (other, kept) :: rest =>
      if other = account then (account, reputation) :: rest
      else (other, kept) :: putReputation account reputation rest

/-- The ledger without tasks. -/
def empty (rules : Rules) : Ledger where
  tasks := []
  lastTask := 0
  ballots := []
  evaluations := []
  notifications := []
  lastNotification := 0
  achievers := []
  reputations := []
  rules
  offline := false

instance : Inhabited Ledger := ⟨empty .standard⟩

/-- Add a task of a snapshot; the next new task is numbered after it. -/
def addTask (ledger : Ledger) (task : Task) : Ledger :=
  { ledger with
    tasks := putTask task ledger.tasks
    lastTask := if ledger.lastTask.val < task.id.toNat then task.id.number else ledger.lastTask }

/-- The ledger that begins with a snapshot; of tasks with one identifier the last
one counts. -/
def ofSnapshot (rules : Rules) (tasks : List Task) : Ledger :=
  tasks.foldl addTask (empty rules)

/-- The ledger with its connection lost or restored. -/
def setOffline (ledger : Ledger) (offline : Bool) : Ledger := { ledger with offline }

/-- The task with an identifier. -/
def task? (ledger : Ledger) (id : TaskId) : Option Task :=
  ledger.tasks.find? fun task => task.id == id

/-- The notification with an identifier. -/
def notification? (ledger : Ledger) (id : NotificationId) : Option Notification :=
  ledger.notifications.find? fun notification => notification.id == id

/-- The reputation of an account. -/
def reputation (ledger : Ledger) (account : Account) : Reputation :=
  (ledger.reputations.lookup account).getD .initial

/-- The votes on a task so far. -/
def ballotsOn (ledger : Ledger) (id : TaskId) : List Ballot :=
  ledger.ballots.filter fun ballot => ballot.task == id

/-- The evaluations of a task. -/
def evaluationsOf (ledger : Ledger) (id : TaskId) : List Evaluation :=
  ledger.evaluations.filter fun evaluation => evaluation.task == id

/-- The mean rating of a task. -/
def averageRating (ledger : Ledger) (id : TaskId) : Double :=
  let ratings := (ledger.evaluationsOf id).map fun evaluation => evaluation.rating.val
  Double.average (ratings.foldr (· + ·) 0) ratings.length

/-- Whether an account stands before another on the leaderboard: by descending
score, then by name. -/
def outranks (left right : Account × Reputation) : Bool :=
  decide (right.2.totalScore.val < left.2.totalScore.val) ||
    (decide (right.2.totalScore.val = left.2.totalScore.val) &&
      decide (left.1.name ≤ right.1.name))

/-- The accounts with the highest scores, up to a limit. -/
def leaderboard (ledger : Ledger) (limit : Nat) : List (Account × Reputation) :=
  (ledger.reputations.mergeSort outranks).take limit

/-- Refuse every call while the connection is lost. -/
def checkOnline (ledger : Ledger) : Except Refusal Unit :=
  if ledger.offline then .error .disconnected else .ok ()

/-- All tasks by ascending identifier. -/
def listTasks (ledger : Ledger) : Except Refusal (List Task) :=
  ledger.checkOnline.map fun () => ledger.tasks

/-- The notifications of an account, the newest first. -/
def notificationsFor (ledger : Ledger) (account : Account) : Except Refusal (List Notification) :=
  ledger.checkOnline.map fun () =>
    ledger.notifications.reverse.filter fun notification => notification.recipient == account

/-- The reputation of an account, if the connection stands. -/
def reputationOf (ledger : Ledger) (account : Account) : Except Refusal Reputation :=
  ledger.checkOnline.map fun () => ledger.reputation account

end Ledger

end TaskBoard
