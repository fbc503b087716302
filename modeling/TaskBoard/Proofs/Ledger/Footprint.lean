import TaskBoard.Proofs.Ledger.Alteration

/-!
# What a call reads

A call about a task reads the task, the votes on it, its evaluations, and of its assignee
the reputation and whether it is an achiever.  On two ledgers that agree on these a call
is refused for the same reason, unless there are no numbers left for notifications.
-/

namespace TaskBoard

namespace Ledger

/-- The ledgers agree on all that a call about the task reads, the numbers of
notifications apart. -/
structure Agrees (id : TaskId) (left right : Ledger) : Prop where
  offline : right.offline = left.offline
  rules : right.rules = left.rules
  task : right.task? id = left.task? id
  ballots : right.ballotsOn id = left.ballotsOn id
  evaluations : right.evaluationsOf id = left.evaluationsOf id
  achievers : ∀ account, left.assignee? id = some account →
    right.achievers.contains account = left.achievers.contains account
  reputations : ∀ account, left.assignee? id = some account →
    right.reputation account = left.reputation account

namespace Agrees

variable {id : TaskId} {left right : Ledger}

theorem refl (id : TaskId) (ledger : Ledger) : Agrees id ledger ledger :=
  ⟨rfl, rfl, rfl, rfl, rfl, fun _ _ => rfl, fun _ _ => rfl⟩

theorem assignee (agrees : Agrees id left right) : right.assignee? id = left.assignee? id :=
  assignee?_congr agrees.task

theorem symm (agrees : Agrees id left right) : Agrees id right left where
  offline := agrees.offline.symm
  rules := agrees.rules.symm
  task := agrees.task.symm
  ballots := agrees.ballots.symm
  evaluations := agrees.evaluations.symm
  achievers account assigned :=
    (agrees.achievers account (agrees.assignee ▸ assigned)).symm
  reputations account assigned :=
    (agrees.reputations account (agrees.assignee ▸ assigned)).symm

variable {task : Task}

/-- What follows from a change of status is the same. -/
theorem plan (agrees : Agrees id left right) (found : left.task? id = some task)
    (actor : Account) (status : Status) (now : Instant) :
    StatusChange.plan right actor task status now =
      StatusChange.plan left actor task status now := by
  have assigned := assignee?_of_task?_eq_some found
  have sameAchiever : StatusChange.achiever? right task status =
      StatusChange.achiever? left task status := by
    rw [StatusChange.achiever?, StatusChange.achiever?]
    cases isAssigned : task.assignee with
    | none => rfl
    | some account =>
        rw [Option.filter_some, Option.filter_some,
          agrees.achievers account (assigned.trans isAssigned)]
  have samePromotion : StatusChange.promotion? right task status now =
      StatusChange.promotion? left task status now := by
    cases isAssigned : task.assignee with
    | none => simp [StatusChange.promotion?, isAssigned]
    | some account =>
        have sameReputation := agrees.reputations account (assigned.trans isAssigned)
        cases status
        all_goals simp [StatusChange.promotion?, isAssigned, sameReputation, agrees.rules]
  rw [StatusChange.plan, StatusChange.plan, sameAchiever, samePromotion]

/-- What follows from a rating is the same. -/
theorem ratingPromotion? (agrees : Agrees id left right) (found : left.task? id = some task)
    (rating : Word8) (now : Instant) :
    Transaction.ratingPromotion? right task rating now =
      Transaction.ratingPromotion? left task rating now := by
  have assigned := assignee?_of_task?_eq_some found
  rw [Transaction.ratingPromotion?, Transaction.ratingPromotion?]
  cases isAssigned : task.assignee with
  | none => rfl
  | some account =>
      rw [Option.map_some, Option.map_some,
        agrees.reputations account (assigned.trans isAssigned), agrees.rules]

end Agrees

end Ledger

namespace Transaction

variable {α β : Type} {left right : Ledger}

/-- The transaction is refused on the ledger only when numbers for notifications have run
out. -/
def OnlyExhausted (ledger : Ledger) (transaction : Transaction α) : Prop :=
  ∀ refusal, (transaction.on ledger).1 = .error refusal →
    refusal = .rejected .notificationIdsExhausted

/-- If the first transaction is refused on the left, and not because numbers for
notifications have run out, the second one is refused on the right for the same reason. -/
def RefusedAlike (left right : Ledger) (first second : Transaction α) : Prop :=
  ∀ refusal, refusal ≠ .rejected .notificationIdsExhausted →
    (first.on left).1 = .error refusal → (second.on right).1 = .error refusal

theorem OnlyExhausted.refusedAlike {first : Transaction α} (only : first.OnlyExhausted left)
    (second : Transaction α) : RefusedAlike left right first second :=
  fun refusal otherwise refused => absurd (only refusal refused) otherwise

theorem NeverRefused.onlyExhausted {transaction : Transaction α}
    (succeeds : transaction.NeverRefused) : transaction.OnlyExhausted left :=
  fun refusal refused => (succeeds left refusal _ (Prod.ext refused rfl)).elim

theorem onlyExhausted_deliver_bind {notices : List Notice} {now : Instant}
    {rest : List Event → Transaction α} (succeeds : ∀ events, (rest events).NeverRefused) :
    (deliver notices now >>= rest).OnlyExhausted left := by
  intro refusal refused
  rw [on_bind, deliver, on_get_bind] at refused
  by_cases fits : left.lastNotification.val + notices.length ≤ 4294967295
  · simp only [fits, ↓reduceDIte] at refused
    exact ((succeeds _).onlyExhausted refusal refused)
  · simp only [fits, ↓reduceDIte, on_throw] at refused
    cases refused
    rfl

/-- A change of status is not refused where the task is there. -/
theorem onlyExhausted_applyStatus_bind {actor : Account} {id : TaskId} {task : Task}
    {status : Status} {now : Instant} {rest : List Event → Transaction α}
    (found : left.task? id = some task) (succeeds : ∀ events, (rest events).NeverRefused) :
    (applyStatus actor id status now >>= rest).OnlyExhausted left := by
  intro refusal refused
  simp only [applyStatus, bind_assoc, pure_bind] at refused
  rw [on_bind, on_findTask, found] at refused
  simp only [on_get_bind] at refused
  refine onlyExhausted_deliver_bind (fun events => ?_) refusal refused
  exact (neverRefused_modify _).bind fun _ => succeeds _

namespace RefusedAlike

theorem requireOnline_bind {first second : Unit → Transaction α}
    (same : right.offline = left.offline)
    (alike : RefusedAlike left right (first ()) (second ())) :
    RefusedAlike left right (requireOnline >>= first) (requireOnline >>= second) := by
  intro refusal otherwise refused
  rw [on_bind, on_requireOnline] at refused ⊢
  rw [same]
  cases connected : left.offline with
  | false =>
      simp only [connected] at refused
      exact alike refusal otherwise refused
  | true =>
      simp only [connected] at refused
      exact refused

theorem require_bind {first second : Unit → Transaction α} (condition : Bool)
    (reason : Refusal) (alike : RefusedAlike left right (first ()) (second ())) :
    RefusedAlike left right (require condition reason >>= first)
      (require condition reason >>= second) := by
  intro refusal otherwise refused
  rw [on_bind, on_require] at refused ⊢
  cases condition with
  | false => exact refused
  | true => exact alike refusal otherwise refused

theorem findTask_bind {id : TaskId} {first second : Task → Transaction α}
    (same : right.task? id = left.task? id)
    (alike : ∀ task, left.task? id = some task →
      RefusedAlike left right (first task) (second task)) :
    RefusedAlike left right (findTask id >>= first) (findTask id >>= second) := by
  intro refusal otherwise refused
  rw [on_bind, on_findTask] at refused ⊢
  rw [same]
  cases found : left.task? id with
  | none =>
      rw [found] at refused
      exact refused
  | some task =>
      rw [found] at refused
      exact alike task found refusal otherwise refused

theorem get_bind {first second : Ledger → Transaction α}
    (alike : RefusedAlike left right (first left) (second right)) :
    RefusedAlike left right ((get : Transaction Ledger) >>= first)
      ((get : Transaction Ledger) >>= second) := by
  intro refusal otherwise refused
  rw [on_get_bind] at refused ⊢
  exact alike refusal otherwise refused

/-- What is never refused may stand behind both. -/
theorem bind {first second : Transaction α} {rest : α → Transaction β}
    (alike : RefusedAlike left right first second)
    (succeeds : ∀ value, (rest value).NeverRefused) :
    RefusedAlike left right (first >>= rest) (second >>= rest) := by
  intro refusal otherwise refused
  rcases on_bind_eq_error.mp (Prod.ext refused rfl) with atFirst | ⟨value, reached, _, atRest⟩
  · have alsoRefused := alike refusal otherwise (congrArg Prod.fst atFirst)
    have isError : (second >>= rest).on right = (.error refusal, (second.on right).2) :=
      on_bind_eq_error.mpr (.inl (Prod.ext alsoRefused rfl))
    exact congrArg Prod.fst isError
  · exact (succeeds value reached refusal _ atRest).elim

end RefusedAlike

/-! ## The transactions -/

variable {id : TaskId}

theorem refusedAlike_assign (agrees : left.Agrees id right) (signer assignee : Account)
    (now : Instant) :
    RefusedAlike left right (assign signer id assignee now) (assign signer id assignee now) := by
  apply RefusedAlike.requireOnline_bind agrees.offline
  apply RefusedAlike.findTask_bind agrees.task
  intro task found
  apply RefusedAlike.require_bind
  apply RefusedAlike.require_bind
  apply RefusedAlike.require_bind
  apply OnlyExhausted.refusedAlike
  apply onlyExhausted_deliver_bind
  intro announced
  exact neverRefused_modify_pure _ _

theorem refusedAlike_changeStatus (agrees : left.Agrees id right) (signer : Account)
    (status : Status) (now : Instant) :
    RefusedAlike left right (changeStatus signer id status now)
      (changeStatus signer id status now) := by
  apply RefusedAlike.requireOnline_bind agrees.offline
  apply RefusedAlike.findTask_bind agrees.task
  intro task found
  apply RefusedAlike.require_bind
  apply RefusedAlike.require_bind
  apply OnlyExhausted.refusedAlike
  apply onlyExhausted_applyStatus_bind found
  intro events
  split
  · exact neverRefused_modify_pure _ _
  · exact neverRefused_pure _

theorem refusedAlike_vote (agrees : left.Agrees id right) (signer : Account) (approve : Bool)
    (now : Instant) :
    RefusedAlike left right (vote signer id approve now) (vote signer id approve now) := by
  apply RefusedAlike.requireOnline_bind agrees.offline
  apply RefusedAlike.findTask_bind agrees.task
  intro task found
  apply RefusedAlike.require_bind
  apply RefusedAlike.require_bind
  apply RefusedAlike.get_bind
  rw [agrees.ballots]
  apply RefusedAlike.require_bind
  apply OnlyExhausted.refusedAlike
  dsimp only
  split
  · exact (neverRefused_modify_pure _ _).onlyExhausted
  · apply onlyExhausted_applyStatus_bind found
    intro events
    exact neverRefused_modify_pure _ _

theorem refusedAlike_evaluate (agrees : left.Agrees id right) (signer : Account)
    (rating : Word8) (comment : String) (now : Instant) :
    RefusedAlike left right (evaluate signer id rating comment now)
      (evaluate signer id rating comment now) := by
  apply RefusedAlike.require_bind
  apply RefusedAlike.requireOnline_bind agrees.offline
  apply RefusedAlike.findTask_bind agrees.task
  intro task found
  apply RefusedAlike.require_bind
  apply RefusedAlike.require_bind
  apply RefusedAlike.get_bind
  rw [agrees.evaluations]
  apply RefusedAlike.require_bind
  apply RefusedAlike.get_bind
  apply OnlyExhausted.refusedAlike
  apply onlyExhausted_deliver_bind
  intro announced
  exact neverRefused_modify_pure _ _

end Transaction

namespace Command

/-- A call about a task that is refused on one ledger is refused on every other that agrees
on the task, for the same reason; only numbers of notifications can make a difference. -/
theorem run_eq_error_of_agrees {command : Command} {id : TaskId} {now : Instant}
    {left right : Ledger} {refusal : Refusal} (target : command.target? = some id)
    (agrees : left.Agrees id right) (refused : command.run now left = (.error refusal, left))
    (otherwise : refusal ≠ .rejected .notificationIdsExhausted) :
    command.run now right = (.error refusal, right) := by
  have answers (receipt : Receipt Unit) :
      (pure ⟨none, receipt.events⟩ : Transaction (Receipt (Option TaskId))).NeverRefused :=
    Transaction.neverRefused_pure _
  have alike : Transaction.RefusedAlike left right (command.transaction now)
      (command.transaction now) := by
    cases command with
    | create | markRead => cases target
    | assign signer task assignee =>
        cases target
        exact (Transaction.refusedAlike_assign agrees signer assignee now).bind answers
    | changeStatus signer task status =>
        cases target
        exact (Transaction.refusedAlike_changeStatus agrees signer status now).bind answers
    | vote signer task approve =>
        cases target
        exact (Transaction.refusedAlike_vote agrees signer approve now).bind answers
    | evaluate signer task rating comment =>
        cases target
        exact (Transaction.refusedAlike_evaluate agrees signer rating comment now).bind answers
  have alsoRefused := alike refusal otherwise (congrArg Prod.fst refused)
  exact Prod.ext alsoRefused (ledger_eq_of_run_eq_error (Prod.ext alsoRefused rfl))

end Command

end TaskBoard
