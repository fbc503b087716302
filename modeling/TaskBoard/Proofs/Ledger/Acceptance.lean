import TaskBoard.Proofs.Ledger.Execution

/-!
# Accepted calls

`Command.Accepted` lists, rule by rule, the calls that the ledger accepts: what
has to hold, what is answered, which events are published and which ledger is
left.  A call runs to that answer and that ledger exactly if a rule says so, so
everything that a call can do is found by cases on the rules.
-/

namespace TaskBoard

namespace Ledger

theorem succ_lastTask_pos (ledger : Ledger) : 0 < ledger.lastTask.val + 1 :=
  Nat.succ_pos ledger.lastTask.val

/-- The identifier of the next new task. -/
def nextTask (ledger : Ledger) (fits : ledger.lastTask.val + 1 ≤ 4294967295) : TaskId :=
  ⟨⟨ledger.lastTask.val + 1, fits⟩, ledger.succ_lastTask_pos⟩

/-- The ledger with a new task under the next identifier. -/
def addNew (ledger : Ledger) (fits : ledger.lastTask.val + 1 ≤ 4294967295) (task : Task) :
    Ledger :=
  { ledger with
    lastTask := (ledger.nextTask fits).number
    tasks := putTask task ledger.tasks }

/-- The notifications that notices become on the ledger. -/
def numbered (ledger : Ledger) (notices : List Notice) (now : Instant)
    (fits : ledger.lastNotification.val + notices.length ≤ 4294967295) : List Notification :=
  Notice.numbered now notices ledger.lastNotification.val fits

/-- The ledger with notices stored as notifications. -/
def storeNotices (ledger : Ledger) (notices : List Notice) (now : Instant)
    (fits : ledger.lastNotification.val + notices.length ≤ 4294967295) : Ledger :=
  { ledger with
    lastNotification := ⟨ledger.lastNotification.val + notices.length, fits⟩
    notifications := ledger.notifications ++ ledger.numbered notices now fits }

/-- The events that announce notices stored on the ledger. -/
def announced (ledger : Ledger) (notices : List Notice) (now : Instant)
    (fits : ledger.lastNotification.val + notices.length ≤ 4294967295) : List Event :=
  (ledger.numbered notices now fits).flatMap Notification.announcements

/-- The ledger with a change of status written, with all that follows from it. -/
def applyChange (ledger : Ledger) (id : TaskId) (status : Status) (now : Instant)
    (change : StatusChange)
    (fits : ledger.lastNotification.val + change.notices.length ≤ 4294967295) : Ledger :=
  (((ledger.storeNotices change.notices now fits).updateTask id fun task =>
    Task.touch { task with status } now).addAchiever? change.achiever).storePromotion?
      change.promotion

/-- The events of a change of status. -/
def changeEvents (ledger : Ledger) (task : Task) (id : TaskId) (status : Status) (now : Instant)
    (change : StatusChange)
    (fits : ledger.lastNotification.val + change.notices.length ≤ 4294967295) : List Event :=
  .statusChanged id task.status status ::
    (ledger.announced change.notices now fits ++ change.rewards)

end Ledger

namespace Transaction

variable {α : Type} {ledger after : Ledger} {answer : α}

theorem on_allocateTask_bind_eq_ok {rest : TaskId → Transaction α} :
    (allocateTask >>= rest).on ledger = (.ok answer, after) ↔
      ∃ fits, (rest (ledger.nextTask fits)).on
        { ledger with lastTask := (ledger.nextTask fits).number } = (.ok answer, after) := by
  rw [on_bind, allocateTask, on_get_bind]
  by_cases fits : ledger.lastTask.val + 1 ≤ 4294967295
  · simp only [fits, ↓reduceDIte, exists_true_left]
    rfl
  · simp [fits]

theorem on_deliver_bind_eq_ok {notices : List Notice} {now : Instant}
    {rest : List Event → Transaction α} :
    (deliver notices now >>= rest).on ledger = (.ok answer, after) ↔
      ∃ fits, (rest (ledger.announced notices now fits)).on
        (ledger.storeNotices notices now fits) = (.ok answer, after) := by
  rw [on_bind, deliver, on_get_bind]
  by_cases fits : ledger.lastNotification.val + notices.length ≤ 4294967295
  · simp only [fits, ↓reduceDIte, exists_true_left]
    rfl
  · simp [fits]

/-- A change of status succeeds if the task is there and there are numbers for
the notifications. -/
theorem on_applyStatus_bind_eq_ok {actor : Account} {id : TaskId} {status : Status}
    {now : Instant} {rest : List Event → Transaction α} :
    (applyStatus actor id status now >>= rest).on ledger = (.ok answer, after) ↔
      ∃ task, ledger.task? id = some task ∧
        let change := StatusChange.plan ledger actor task status now
        ∃ fits, (rest (ledger.changeEvents task id status now change fits)).on
          (ledger.applyChange id status now change fits) = (.ok answer, after) := by
  simp only [applyStatus, bind_assoc, on_findTask_bind_eq_ok, on_get_bind,
    on_deliver_bind_eq_ok, on_modify_bind, pure_bind]
  rfl

end Transaction

namespace Command

/-- The calls that a ledger accepts at an instant, each with its receipt and the
ledger that it leaves. -/
inductive Accepted (now : Instant) (ledger : Ledger) :
    Command → Receipt (Option TaskId) → Ledger → Prop where
  | create {signer : Account} {draft : Draft}
      (titled : Text.isAllBlank draft.title = false)
      (online : ledger.offline = false)
      (fits : ledger.lastTask.val + 1 ≤ 4294967295) :
      Accepted now ledger (.create signer draft)
        ⟨some (ledger.nextTask fits),
          [.taskCreated (ledger.nextTask fits) signer draft.title]⟩
        (ledger.addNew fits (draft.toTask (ledger.nextTask fits) signer now))
  | assign {signer assignee : Account} {id : TaskId} {task : Task}
      (online : ledger.offline = false)
      (found : ledger.task? id = some task)
      (byCreator : task.creator = signer)
      (toOther : task.creator ≠ assignee)
      (unassigned : task.assignee = none)
      (fits : ledger.lastNotification.val + [Notice.assignment task assignee].length ≤
        4294967295) :
      Accepted now ledger (.assign signer id assignee)
        ⟨none, .taskAssigned id assignee ::
          ledger.announced [Notice.assignment task assignee] now fits⟩
        ((ledger.storeNotices [Notice.assignment task assignee] now fits).updateTask id
          fun task => Task.touch { task with assignee := some assignee } now)
  | changeStatus {signer : Account} {id : TaskId} {status : Status} {task : Task}
      (online : ledger.offline = false)
      (found : ledger.task? id = some task)
      (byParty : task.creator = signer ∨ task.assignee = some signer)
      (allowed : task.status.allows status = true)
      (fits : ledger.lastNotification.val +
        (StatusChange.plan ledger signer task status now).notices.length ≤ 4294967295) :
      Accepted now ledger (.changeStatus signer id status)
        ⟨none, ledger.changeEvents task id status now
          (StatusChange.plan ledger signer task status now) fits⟩
        (let changed := ledger.applyChange id status now
          (StatusChange.plan ledger signer task status now) fits
        if status = .pendingVerification then changed.clearBallots id else changed)
  /-- A vote that leaves the quorum unreached. -/
  | ballot {signer : Account} {id : TaskId} {approve : Bool} {task : Task}
      (online : ledger.offline = false)
      (found : ledger.task? id = some task)
      (pending : task.status = .pendingVerification)
      (notCreator : task.creator ≠ signer)
      (notAssignee : task.assignee ≠ some signer)
      (firstVote : ∀ ballot ∈ ledger.ballotsOn id, ballot.voter ≠ signer)
      (short : (ledger.ballotsOn id).length + 1 < Ledger.quorum) :
      Accepted now ledger (.vote signer id approve)
        ⟨none, [.voteSubmitted id signer approve]⟩
        (ledger.castBallot ⟨id, signer, approve⟩)
  /-- A vote that reaches the quorum. -/
  | verdict {signer : Account} {id : TaskId} {approve : Bool} {task : Task} {outcome : Status}
      (online : ledger.offline = false)
      (found : ledger.task? id = some task)
      (pending : task.status = .pendingVerification)
      (notCreator : task.creator ≠ signer)
      (notAssignee : task.assignee ≠ some signer)
      (firstVote : ∀ ballot ∈ ledger.ballotsOn id, ballot.voter ≠ signer)
      (reached : Ledger.quorum ≤ (ledger.ballotsOn id).length + 1)
      (counted : outcome = Transaction.verdict (ledger.ballotsOn id ++ [⟨id, signer, approve⟩]))
      (fits : ledger.lastNotification.val +
        (StatusChange.plan ledger signer task outcome now).notices.length ≤ 4294967295) :
      Accepted now ledger (.vote signer id approve)
        ⟨none, .voteSubmitted id signer approve ::
          ledger.changeEvents task id outcome now
            (StatusChange.plan ledger signer task outcome now) fits⟩
        ((ledger.applyChange id outcome now
          (StatusChange.plan ledger signer task outcome now) fits).clearBallots id)
  | evaluate {signer : Account} {id : TaskId} {rating : Word8} {comment : String} {task : Task}
      {promotion : Option Promotion}
      (inRange : 1 ≤ rating.val ∧ rating.val ≤ 5)
      (online : ledger.offline = false)
      (found : ledger.task? id = some task)
      (completed : task.status = .completed)
      (notAssignee : task.assignee ≠ some signer)
      (firstRating : ∀ evaluation ∈ ledger.evaluationsOf id, evaluation.evaluator ≠ signer)
      (earned : promotion = Transaction.ratingPromotion? ledger task rating now)
      (fits : ledger.lastNotification.val +
        (promotion.toList.flatMap Promotion.notices).length ≤ 4294967295) :
      Accepted now ledger (.evaluate signer id rating comment)
        ⟨none, .taskEvaluated id signer rating :: (promotion.toList.flatMap Promotion.events ++
          ledger.announced (promotion.toList.flatMap Promotion.notices) now fits)⟩
        (((ledger.storeNotices (promotion.toList.flatMap Promotion.notices) now
          fits).addEvaluation
            { task := id
              assignee := task.assignee
              evaluator := signer
              rating
              comment
              evaluatedAt := now }).storePromotion? promotion)
  | markRead {signer : Account} {id : NotificationId} {notification : Notification}
      (online : ledger.offline = false)
      (found : ledger.notification? id = some notification)
      (byRecipient : notification.recipient = signer) :
      Accepted now ledger (.markRead signer id) ⟨none, []⟩ (ledger.readNotification id)

section Running

variable {now : Instant} {ledger after : Ledger} {receipt : Receipt (Option TaskId)}

theorem run_create_eq_ok_iff {signer : Account} {draft : Draft} :
    (create signer draft).run now ledger = (.ok receipt, after) ↔
      Accepted now ledger (.create signer draft) receipt after := by
  simp only [run, transaction, Transaction.create, bind_assoc, pure_bind,
    Transaction.on_require_bind_eq_ok, Transaction.on_requireOnline_bind_eq_ok,
    Transaction.on_allocateTask_bind_eq_ok, Transaction.on_modify_bind, Transaction.on_pure,
    Prod.mk.injEq, Except.ok.injEq]
  constructor
  · rintro ⟨titled, online, fits, rfl, rfl⟩
    exact .create (by simpa using titled) online fits
  · intro accepted
    cases accepted with
    | create titled online fits => exact ⟨by simp [titled], online, fits, rfl, rfl⟩

theorem run_assign_eq_ok_iff {signer assignee : Account} {id : TaskId} :
    (assign signer id assignee).run now ledger = (.ok receipt, after) ↔
      Accepted now ledger (.assign signer id assignee) receipt after := by
  simp only [run, transaction, Transaction.assign, bind_assoc, pure_bind,
    Transaction.on_require_bind_eq_ok, Transaction.on_requireOnline_bind_eq_ok,
    Transaction.on_findTask_bind_eq_ok, Transaction.on_deliver_bind_eq_ok,
    Transaction.on_modify_bind, Transaction.on_pure, Prod.mk.injEq, Except.ok.injEq]
  constructor
  · rintro ⟨online, task, found, byCreator, toOther, unassigned, fits, rfl, rfl⟩
    exact .assign online found (by simpa using byCreator) (by simpa using toOther)
      (by simpa [Task.isAssigned] using unassigned) fits
  · intro accepted
    cases accepted with
    | assign online found byCreator toOther unassigned fits =>
        exact ⟨online, _, found, by simp [byCreator], by simp [toOther],
          by simp [Task.isAssigned, unassigned], fits, rfl, rfl⟩

theorem run_changeStatus_eq_ok_iff {signer : Account} {id : TaskId} {status : Status} :
    (changeStatus signer id status).run now ledger = (.ok receipt, after) ↔
      Accepted now ledger (.changeStatus signer id status) receipt after := by
  simp only [run, transaction, Transaction.changeStatus, bind_assoc,
    Transaction.on_require_bind_eq_ok, Transaction.on_requireOnline_bind_eq_ok,
    Transaction.on_findTask_bind_eq_ok, Transaction.on_applyStatus_bind_eq_ok]
  constructor
  · rintro ⟨online, task, found, byParty, allowed, again, same, fits, ran⟩
    cases found.symm.trans same
    have accepted := Accepted.changeStatus online found (by simpa using byParty) allowed fits
    by_cases pending : status = .pendingVerification
    · simp only [pending, ↓reduceIte, bind_assoc, pure_bind, Transaction.on_modify_bind,
        Transaction.on_pure, Prod.mk.injEq, Except.ok.injEq] at ran
      obtain ⟨rfl, rfl⟩ := ran
      simpa only [pending, ↓reduceIte] using accepted
    · simp only [pending, ↓reduceIte, pure_bind, Transaction.on_pure, Prod.mk.injEq,
        Except.ok.injEq] at ran
      obtain ⟨rfl, rfl⟩ := ran
      simpa only [pending, ↓reduceIte] using accepted
  · intro accepted
    cases accepted with
    | @changeStatus _ _ _ task online found byParty allowed fits =>
        refine ⟨online, task, found, by simpa using byParty, allowed, task, found, fits, ?_⟩
        by_cases pending : status = .pendingVerification
        · simp only [pending, ↓reduceIte, bind_assoc, pure_bind, Transaction.on_modify_bind,
            Transaction.on_pure]
        · simp only [pending, ↓reduceIte, pure_bind, Transaction.on_pure]

theorem run_vote_eq_ok_iff {signer : Account} {id : TaskId} {approve : Bool} :
    (vote signer id approve).run now ledger = (.ok receipt, after) ↔
      Accepted now ledger (.vote signer id approve) receipt after := by
  simp only [run, transaction, Transaction.vote, bind_assoc,
    Transaction.on_require_bind_eq_ok, Transaction.on_requireOnline_bind_eq_ok,
    Transaction.on_findTask_bind_eq_ok, Transaction.on_get_bind, List.length_append,
    List.length_singleton]
  constructor
  · rintro ⟨online, task, found, pending, outsider, firstVote, ran⟩
    have pending : task.status = .pendingVerification := by simpa using pending
    have outsider : task.creator ≠ signer ∧ task.assignee ≠ some signer := by
      simpa using outsider
    have firstVote : ∀ ballot ∈ ledger.ballotsOn id, ballot.voter ≠ signer := by
      simpa using firstVote
    by_cases short : (ledger.ballotsOn id).length + 1 < Ledger.quorum
    · simp only [short, ↓reduceIte, bind_assoc, pure_bind, Transaction.on_modify_bind,
        Transaction.on_pure, Prod.mk.injEq, Except.ok.injEq] at ran
      obtain ⟨rfl, rfl⟩ := ran
      exact .ballot online found pending outsider.1 outsider.2 firstVote short
    · simp only [short, ↓reduceIte, bind_assoc, pure_bind,
        Transaction.on_applyStatus_bind_eq_ok, Transaction.on_modify_bind,
        Transaction.on_pure, Prod.mk.injEq, Except.ok.injEq] at ran
      obtain ⟨again, same, fits, rfl, rfl⟩ := ran
      cases found.symm.trans same
      exact .verdict online found pending outsider.1 outsider.2 firstVote (by omega) rfl fits
  · intro accepted
    cases accepted with
    | @ballot _ _ _ task online found pending notCreator notAssignee firstVote short =>
        refine ⟨online, task, found, by simpa using pending,
          by simp [notCreator, notAssignee], by simpa using firstVote, ?_⟩
        simp only [short, ↓reduceIte, bind_assoc, pure_bind, Transaction.on_modify_bind,
          Transaction.on_pure]
    | @verdict _ _ _ task outcome online found pending notCreator notAssignee firstVote
        reached counted fits =>
        subst counted
        refine ⟨online, task, found, by simpa using pending,
          by simp [notCreator, notAssignee], by simpa using firstVote, ?_⟩
        have notShort : ¬ (ledger.ballotsOn id).length + 1 < Ledger.quorum := by omega
        simp only [notShort, ↓reduceIte, bind_assoc, pure_bind,
          Transaction.on_applyStatus_bind_eq_ok, Transaction.on_modify_bind,
          Transaction.on_pure]
        exact ⟨task, found, fits, rfl⟩

theorem run_evaluate_eq_ok_iff {signer : Account} {id : TaskId} {rating : Word8}
    {comment : String} :
    (evaluate signer id rating comment).run now ledger = (.ok receipt, after) ↔
      Accepted now ledger (.evaluate signer id rating comment) receipt after := by
  simp only [run, transaction, Transaction.evaluate, bind_assoc, pure_bind,
    Transaction.on_require_bind_eq_ok, Transaction.on_requireOnline_bind_eq_ok,
    Transaction.on_findTask_bind_eq_ok, Transaction.on_get_bind,
    Transaction.on_deliver_bind_eq_ok, Transaction.on_modify_bind, Transaction.on_pure,
    Prod.mk.injEq, Except.ok.injEq]
  constructor
  · rintro ⟨inRange, online, task, found, completed, notAssignee, firstRating, fits, rfl, rfl⟩
    exact .evaluate (by simpa using inRange) online found (by simpa using completed)
      (by simpa using notAssignee) (by simpa using firstRating) rfl fits
  · intro accepted
    cases accepted with
    | evaluate inRange online found completed notAssignee firstRating earned fits =>
        subst earned
        exact ⟨by simpa using inRange, online, _, found, by simpa using completed,
          by simpa using notAssignee, by simpa using firstRating, fits, rfl, rfl⟩

theorem run_markRead_eq_ok_iff {signer : Account} {id : NotificationId} :
    (markRead signer id).run now ledger = (.ok receipt, after) ↔
      Accepted now ledger (.markRead signer id) receipt after := by
  simp only [run, transaction, Transaction.markRead, bind_assoc,
    Transaction.on_requireOnline_bind_eq_ok, Transaction.on_get_bind]
  constructor
  · rintro ⟨online, ran⟩
    cases found : ledger.notification? id with
    | none => simp [found] at ran
    | some notification =>
        simp only [found, bind_assoc, pure_bind, Transaction.on_require_bind_eq_ok,
          Transaction.on_modify_bind, Transaction.on_pure, Prod.mk.injEq,
          Except.ok.injEq] at ran
        obtain ⟨byRecipient, rfl, rfl⟩ := ran
        exact .markRead online found (by simpa using byRecipient)
  · intro accepted
    cases accepted with
    | markRead online found byRecipient =>
        refine ⟨online, ?_⟩
        simp only [found, bind_assoc, pure_bind, Transaction.on_require_bind_eq_ok,
          Transaction.on_modify_bind, Transaction.on_pure, and_true]
        simpa using byRecipient

/-- A call runs to an answer exactly if one of the rules accepts it. -/
theorem run_eq_ok_iff {command : Command} :
    command.run now ledger = (.ok receipt, after) ↔
      Accepted now ledger command receipt after := by
  cases command with
  | create => exact run_create_eq_ok_iff
  | assign => exact run_assign_eq_ok_iff
  | changeStatus => exact run_changeStatus_eq_ok_iff
  | vote => exact run_vote_eq_ok_iff
  | evaluate => exact run_evaluate_eq_ok_iff
  | markRead => exact run_markRead_eq_ok_iff

end Running

end Command

end TaskBoard
