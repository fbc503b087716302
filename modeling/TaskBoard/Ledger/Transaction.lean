import TaskBoard.Ledger.Basic
import TaskBoard.Text.Blank

/-!
# Transactions

A transaction checks what its signer asks for, works out everything that follows
from it and only then writes to the ledger.  A transaction that is refused keeps
the ledger that it has got to, so that whether it has written anything before is
a question about this module.
-/

namespace TaskBoard

/-- A step on the ledger that may be refused. -/
abbrev Transaction (α : Type) := ExceptT Refusal (StateM Ledger) α

/-- The answer of a transaction and the ledger after it. -/
def Transaction.on {α : Type} (transaction : Transaction α) (ledger : Ledger) :
    Except Refusal α × Ledger :=
  transaction.run.run ledger

/-- What a successful transaction answers and the events that it publishes. -/
structure Receipt (α : Type) where
  answer : α
  events : List Event

/-- A notification before it has a number. -/
structure Notice where
  recipient : Account
  kind : NotificationKind
  task : TaskId
  message : String
  deriving DecidableEq

namespace Notice

/-- The notification that a notice becomes. -/
def toNotification (notice : Notice) (id : NotificationId) (now : Instant) : Notification where
  id
  recipient := notice.recipient
  kind := notice.kind
  task := some notice.task
  message := notice.message
  isRead := false
  createdAt := now

/-- The notifications that notices become, numbered from after `last` on. -/
def numbered (now : Instant) : (notices : List Notice) → (last : Nat) →
    last + notices.length ≤ 4294967295 → List Notification
  | [], _, _ => []
  | notice :: rest, last, fits =>
      notice.toNotification
          ⟨⟨last + 1, by rw [List.length_cons] at fits; omega⟩, Nat.succ_pos last⟩ now ::
        numbered now rest (last + 1) (by rw [List.length_cons] at fits; omega)

/-- The notice that somebody was assigned to a task. -/
def assignment (task : Task) (assignee : Account) : Notice where
  recipient := assignee
  kind := .taskAssigned
  task := task.id
  message := "You were assigned \"" ++ task.title ++ "\""

/-- The kind of the notices that go out when a task changes to a status. -/
def kindFor : Status → NotificationKind
  | .pendingVerification => .verificationRequested
  | _ => .taskStatusChanged

/-- The notice for a party of a task that its status changes. -/
def move (task : Task) (status : Status) (recipient : Account) : Notice where
  recipient
  kind := kindFor status
  task := task.id
  message :=
    "\"" ++ task.title ++ "\" moved from " ++ task.status.name ++ " to " ++ status.name

/-- The notice of the first completed task. -/
def achievement (task : Task) (recipient : Account) : Notice where
  recipient
  kind := .achievementUnlocked
  task := task.id
  message := "Achievement unlocked: first task completed"

end Notice

/-- A new reputation of an account that is still to be stored. -/
structure Promotion where
  account : Account
  task : TaskId
  reputation : Reputation
  change : ScoreChange
  deriving DecidableEq

namespace Promotion

/-- The notice of a higher level, if one is reached. -/
def notices (promotion : Promotion) : List Notice :=
  if promotion.change.leveledUp then
    [{ recipient := promotion.account
       kind := .reputationLevelUp
       task := promotion.task
       message := "Reputation level up: " ++ promotion.change.newLevel.name }]
  else []

/-- The events of a changed score. -/
def events (promotion : Promotion) : List Event :=
  .scoreChanged promotion.account promotion.task promotion.change.oldScore
      promotion.change.newScore ::
    if promotion.change.leveledUp then
      [.levelUp promotion.account promotion.change.oldLevel promotion.change.newLevel]
    else []

end Promotion

namespace Ledger

/-- The ledger with a new reputation stored. -/
def storePromotion (ledger : Ledger) (promotion : Promotion) : Ledger :=
  { ledger with
    reputations := putReputation promotion.account promotion.reputation ledger.reputations }

/-- The ledger with a new reputation stored, if there is one. -/
def storePromotion? (ledger : Ledger) : Option Promotion → Ledger
  | none => ledger
  | some promotion => ledger.storePromotion promotion

/-- The ledger with one task changed. -/
def updateTask (ledger : Ledger) (id : TaskId) (change : Task → Task) : Ledger :=
  { ledger with tasks := changeTask id change ledger.tasks }

/-- The ledger without votes on a task. -/
def clearBallots (ledger : Ledger) (id : TaskId) : Ledger :=
  { ledger with ballots := ledger.ballots.filter fun ballot => ballot.task != id }

/-- The ledger with one more vote. -/
def castBallot (ledger : Ledger) (ballot : Ballot) : Ledger :=
  { ledger with ballots := ledger.ballots ++ [ballot] }

/-- The ledger with one more evaluation. -/
def addEvaluation (ledger : Ledger) (evaluation : Evaluation) : Ledger :=
  { ledger with evaluations := ledger.evaluations ++ [evaluation] }

/-- The ledger with one more account that has completed a task, if there is one. -/
def addAchiever? (ledger : Ledger) : Option Account → Ledger
  | none => ledger
  | some account => { ledger with achievers := ledger.achievers ++ [account] }

/-- The ledger with a notification read. -/
def readNotification (ledger : Ledger) (id : NotificationId) : Ledger :=
  { ledger with
    notifications := ledger.notifications.map fun notification =>
      if notification.id = id then { notification with isRead := true } else notification }

end Ledger

/-- What a change of status brings with it, before anything is written. -/
structure StatusChange where
  notices : List Notice
  /-- The account that completes a task for the first time. -/
  achiever : Option Account
  promotion : Option Promotion

namespace StatusChange

/-- The parties of a task that are told what another account does. -/
def audience (task : Task) (actor : Account) : List Account :=
  (task.creator :: task.assignee.toList).filter fun party => party != actor

/-- The assignee, if the task is completed and is the assignee's first. -/
def achiever? (ledger : Ledger) (task : Task) (status : Status) : Option Account :=
  task.assignee.filter fun account =>
    status == .completed && !ledger.achievers.contains account

/-- The new reputation of the assignee of a completed or cancelled task. -/
def promotion? (ledger : Ledger) (task : Task) (status : Status) (now : Instant) :
    Option Promotion :=
  match task.assignee, status with
  | some account, .completed =>
      let (reputation, change) :=
        (ledger.reputation account).recordCompletion ledger.rules task.difficulty now
      some ⟨account, task.id, reputation, change⟩
  | some account, .cancelled =>
      let (reputation, change) := (ledger.reputation account).recordCancellation ledger.rules now
      some ⟨account, task.id, reputation, change⟩
  | _, _ => none

/-- What follows when an account changes the status of a task. -/
def plan (ledger : Ledger) (actor : Account) (task : Task) (status : Status) (now : Instant) :
    StatusChange :=
  let achiever := achiever? ledger task status
  let promotion := promotion? ledger task status now
  { notices :=
      (audience task actor).map (Notice.move task status) ++
        achiever.toList.map (Notice.achievement task) ++
        promotion.toList.flatMap Promotion.notices
    achiever
    promotion }

/-- The events of a status change besides those of its notifications. -/
def rewards (change : StatusChange) : List Event :=
  change.achiever.toList.map (Event.achievementUnlocked · "first_task_completed") ++
    change.promotion.toList.flatMap Promotion.events

end StatusChange

namespace Transaction

/-- Refuse the transaction while the connection is lost. -/
def requireOnline : Transaction Unit := do
  if (← get).offline then throw .disconnected

/-- The task with an identifier. -/
def findTask (id : TaskId) : Transaction Task := do
  match (← get).task? id with
  | some task => return task
  | none => throw (.taskNotFound id)

/-- Refuse the transaction for a reason unless a condition holds. -/
def require (condition : Bool) (refusal : Refusal) : Transaction Unit :=
  if condition then pure () else throw refusal

/-- The identifier of a new task. -/
def allocateTask : Transaction TaskId := do
  let ledger ← get
  if fits : ledger.lastTask.val + 1 ≤ 4294967295 then
    let number : Word32 := ⟨ledger.lastTask.val + 1, fits⟩
    set { ledger with lastTask := number }
    return ⟨number, Nat.succ_pos ledger.lastTask.val⟩
  else throw (.rejected .taskIdsExhausted)

/-- Store notices as notifications and give the events that announce them; all
numbers are given out before anything is stored. -/
def deliver (notices : List Notice) (now : Instant) : Transaction (List Event) := do
  let ledger ← get
  if fits : ledger.lastNotification.val + notices.length ≤ 4294967295 then
    let stored := Notice.numbered now notices ledger.lastNotification.val fits
    set { ledger with
      lastNotification := ⟨ledger.lastNotification.val + notices.length, fits⟩
      notifications := ledger.notifications ++ stored }
    return stored.flatMap Notification.announcements
  else throw (.rejected .notificationIdsExhausted)

/-- Create a task from a draft. -/
def create (signer : Account) (draft : Draft) (now : Instant) :
    Transaction (Receipt TaskId) := do
  require (!Text.isAllBlank draft.title) (.rejected .emptyTitle)
  requireOnline
  let id ← allocateTask
  modify fun ledger =>
    { ledger with tasks := Ledger.putTask (draft.toTask id signer now) ledger.tasks }
  return ⟨id, [.taskCreated id signer draft.title]⟩

/-- Assign an account to a task; only the creator may, and only once. -/
def assign (signer : Account) (id : TaskId) (assignee : Account) (now : Instant) :
    Transaction (Receipt Unit) := do
  requireOnline
  let task ← findTask id
  require (task.creator == signer) (.notAuthorized signer .assign)
  require (task.creator != assignee) (.rejected .assignedToCreator)
  require (!task.isAssigned) (.rejected (.alreadyAssigned id))
  let announced ← deliver [Notice.assignment task assignee] now
  modify fun ledger =>
    ledger.updateTask id fun task => Task.touch { task with assignee := some assignee } now
  return ⟨(), .taskAssigned id assignee :: announced⟩

/-- Write a change of status with all that follows from it. -/
def applyStatus (actor : Account) (id : TaskId) (status : Status) (now : Instant) :
    Transaction (List Event) := do
  let task ← findTask id
  let change := StatusChange.plan (← get) actor task status now
  let announced ← deliver change.notices now
  modify fun ledger =>
    ((ledger.updateTask id fun task => Task.touch { task with status } now).addAchiever?
      change.achiever).storePromotion? change.promotion
  return .statusChanged id task.status status :: (announced ++ change.rewards)

/-- Change the status of a task; only its creator and its assignee may, and only
as the table of statuses allows. -/
def changeStatus (signer : Account) (id : TaskId) (status : Status) (now : Instant) :
    Transaction (Receipt Unit) := do
  requireOnline
  let task ← findTask id
  require (task.creator == signer || task.assignee == some signer)
    (.notAuthorized signer .changeStatus)
  require (task.status.allows status) (.invalidTransition task.status status)
  let events ← applyStatus signer id status now
  if status = .pendingVerification then
    modify fun ledger => ledger.clearBallots id
  return ⟨(), events⟩

/-- The status that votes lead to: completed if more than half of them approve. -/
def verdict (ballots : List Ballot) : Status :=
  if ballots.length < 2 * ballots.countP Ballot.approve then .completed else .inProgress

/-- Vote on a task that awaits verification; its creator and its assignee may
not, and everybody else may once.  The vote that reaches the quorum decides. -/
def vote (signer : Account) (id : TaskId) (approve : Bool) (now : Instant) :
    Transaction (Receipt Unit) := do
  requireOnline
  let task ← findTask id
  require (task.status == .pendingVerification) (.rejected (.notAwaitingVerification id))
  require (task.creator != signer && task.assignee != some signer) (.notAuthorized signer .vote)
  let earlier := (← get).ballotsOn id
  require (!earlier.any fun ballot => ballot.voter == signer) (.alreadyVoted id signer)
  let ballot : Ballot := ⟨id, signer, approve⟩
  let submitted : Event := .voteSubmitted id signer approve
  let ballots := earlier ++ [ballot]
  if ballots.length < Ledger.quorum then
    modify fun ledger => ledger.castBallot ballot
    return ⟨(), [submitted]⟩
  else
    let events ← applyStatus signer id (verdict ballots) now
    modify fun ledger => ledger.clearBallots id
    return ⟨(), submitted :: events⟩

/-- The new reputation of the assignee of a rated task. -/
def ratingPromotion? (ledger : Ledger) (task : Task) (rating : Word8) (now : Instant) :
    Option Promotion :=
  task.assignee.map fun account =>
    let (reputation, change) := (ledger.reputation account).recordRating ledger.rules rating now
    ⟨account, task.id, reputation, change⟩

/-- Rate a completed task from one to five; its assignee may not, and everybody
else may once. -/
def evaluate (signer : Account) (id : TaskId) (rating : Word8) (comment : String)
    (now : Instant) : Transaction (Receipt Unit) := do
  require (decide (1 ≤ rating.val) && decide (rating.val ≤ 5)) (.invalidRating rating)
  requireOnline
  let task ← findTask id
  require (task.status == .completed) (.rejected (.notCompleted id))
  require (task.assignee != some signer) (.notAuthorized signer .evaluate)
  let earlier := (← get).evaluationsOf id
  require (!earlier.any fun evaluation => evaluation.evaluator == signer)
    (.rejected (.alreadyEvaluated signer id))
  let promotion := ratingPromotion? (← get) task rating now
  let announced ← deliver (promotion.toList.flatMap Promotion.notices) now
  modify fun ledger =>
    (ledger.addEvaluation
      { task := id
        assignee := task.assignee
        evaluator := signer
        rating
        comment
        evaluatedAt := now }).storePromotion? promotion
  return ⟨(), .taskEvaluated id signer rating ::
    (promotion.toList.flatMap Promotion.events ++ announced)⟩

/-- Mark a notification as read; only its recipient may. -/
def markRead (signer : Account) (id : NotificationId) : Transaction (Receipt Unit) := do
  requireOnline
  match (← get).notification? id with
  | none => throw (.notificationNotFound id)
  | some notification =>
      require (notification.recipient == signer) (.notAuthorized signer .read)
      modify fun ledger => ledger.readNotification id
      return ⟨(), []⟩

end Transaction

/-- A call that an account signs. -/
inductive Command where
  | create (signer : Account) (draft : Draft)
  | assign (signer : Account) (task : TaskId) (assignee : Account)
  | changeStatus (signer : Account) (task : TaskId) (status : Status)
  | vote (signer : Account) (task : TaskId) (approve : Bool)
  | evaluate (signer : Account) (task : TaskId) (rating : Word8) (comment : String)
  | markRead (signer : Account) (notification : NotificationId)

namespace Command

/-- The transaction of a call at an instant; it answers the identifier of the
task that it creates, if it creates one. -/
def transaction (now : Instant) : Command → Transaction (Receipt (Option TaskId))
  | create signer draft => do
      let receipt ← Transaction.create signer draft now
      return ⟨some receipt.answer, receipt.events⟩
  | assign signer task assignee => do
      let receipt ← Transaction.assign signer task assignee now
      return ⟨none, receipt.events⟩
  | changeStatus signer task status => do
      let receipt ← Transaction.changeStatus signer task status now
      return ⟨none, receipt.events⟩
  | vote signer task approve => do
      let receipt ← Transaction.vote signer task approve now
      return ⟨none, receipt.events⟩
  | evaluate signer task rating comment => do
      let receipt ← Transaction.evaluate signer task rating comment now
      return ⟨none, receipt.events⟩
  | markRead signer notification => do
      let receipt ← Transaction.markRead signer notification
      return ⟨none, receipt.events⟩

/-- The answer of a call and the ledger after it. -/
def run (command : Command) (now : Instant) (ledger : Ledger) :
    Except Refusal (Receipt (Option TaskId)) × Ledger :=
  (command.transaction now).on ledger

end Command

end TaskBoard
