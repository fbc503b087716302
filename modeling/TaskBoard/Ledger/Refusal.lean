import TaskBoard.Task.Basic

/-!
# Refused transactions

The ledger refuses a transaction for a reason that the signer can read.  Only a
lost connection is worth another attempt.
-/

namespace TaskBoard

/-- What an account may not be allowed to do. -/
inductive Deed where
  | assign
  | changeStatus
  | vote
  | evaluate
  | read
  deriving DecidableEq, Repr

/-- The deed in words. -/
def Deed.text : Deed → String
  | assign => "assign this task"
  | changeStatus => "change the status of this task"
  | vote => "vote on their own task"
  | evaluate => "evaluate their own work"
  | read => "read this notification"

/-- Why a transaction is rejected. -/
inductive Rejection where
  | emptyTitle
  | assignedToCreator
  | alreadyAssigned (task : TaskId)
  | notAwaitingVerification (task : TaskId)
  | notCompleted (task : TaskId)
  | alreadyEvaluated (account : Account) (task : TaskId)
  | taskIdsExhausted
  | notificationIdsExhausted
  deriving DecidableEq

/-- The reason of a rejection in words. -/
def Rejection.text : Rejection → String
  | emptyTitle => "title must not be empty"
  | assignedToCreator => "cannot assign a task to its creator"
  | alreadyAssigned task => task.text ++ " is already assigned"
  | notAwaitingVerification task => task.text ++ " is not awaiting verification"
  | notCompleted task => task.text ++ " is not completed"
  | alreadyEvaluated account task => account.name ++ " already evaluated " ++ task.text
  | taskIdsExhausted => "task id space exhausted"
  | notificationIdsExhausted => "notification id space exhausted"

/-- Why the ledger refuses a call. -/
inductive Refusal where
  | taskNotFound (task : TaskId)
  | notificationNotFound (notification : NotificationId)
  | notAuthorized (account : Account) (deed : Deed)
  | invalidTransition (before after : Status)
  | alreadyVoted (task : TaskId) (account : Account)
  | invalidRating (rating : Word8)
  | rejected (cause : Rejection)
  | disconnected
  deriving DecidableEq

namespace Refusal

/-- Whether another attempt may succeed. -/
def isTransient : Refusal → Bool
  | disconnected => true
  | _ => false

/-- The text that reports a refusal. -/
def message : Refusal → String
  | taskNotFound task => "task not found: " ++ task.text
  | notificationNotFound notification => "notification not found: " ++ notification.text
  | notAuthorized account deed =>
      "account " ++ account.name ++ " is not allowed to " ++ deed.text
  | invalidTransition before after =>
      "invalid status transition " ++ before.name ++ " -> " ++ after.name
  | alreadyVoted task account =>
      "account " ++ account.name ++ " already voted on " ++ task.text
  | invalidRating rating => "rating must be between 1 and 5, got " ++ toString rating.val
  | rejected cause => "transaction rejected: " ++ cause.text
  | disconnected => "disconnected from chain: in-memory chain is offline"

end Refusal

end TaskBoard
