import TaskBoard.Proofs.Ledger.Execution

/-!
# Refused transactions write nothing

A transaction may be refused at several points, and it keeps the ledger that it
has got to.  It is atomic if that ledger is always the one that it began with.
Atomicity is shown part by part: whatever only reads may stand in front, and
whatever is never refused may stand behind.
-/

namespace TaskBoard

namespace Transaction

variable {α β : Type}

/-- The transaction leaves every ledger as it is. -/
def ReadsOnly (transaction : Transaction α) : Prop :=
  ∀ ledger, (transaction.on ledger).2 = ledger

/-- The transaction succeeds on every ledger. -/
def NeverRefused (transaction : Transaction α) : Prop :=
  ∀ ledger refusal after, transaction.on ledger ≠ (.error refusal, after)

/-- Whenever the transaction is refused, the ledger is the one that it began with. -/
def Atomic (transaction : Transaction α) : Prop :=
  ∀ ledger refusal after, transaction.on ledger = (.error refusal, after) → after = ledger

theorem ReadsOnly.atomic {transaction : Transaction α} (reads : transaction.ReadsOnly) :
    transaction.Atomic := by
  intro ledger refusal after refused
  have unchanged := reads ledger
  rw [refused] at unchanged
  exact unchanged

theorem NeverRefused.atomic {transaction : Transaction α}
    (succeeds : transaction.NeverRefused) : transaction.Atomic :=
  fun ledger refusal after refused => (succeeds ledger refusal after refused).elim

/-- Reading may stand in front of an atomic transaction. -/
theorem ReadsOnly.bind_atomic {first : Transaction α} {rest : α → Transaction β}
    (reads : first.ReadsOnly) (atomic : ∀ value, (rest value).Atomic) :
    (first >>= rest).Atomic := by
  intro ledger refusal after refused
  rcases on_bind_eq_error.mp refused with atFirst | ⟨value, reached, read, atRest⟩
  · exact reads.atomic ledger refusal after atFirst
  · have unchanged := reads ledger
    rw [read] at unchanged
    cases unchanged
    exact atomic value reached refusal after atRest

theorem NeverRefused.bind {first : Transaction α} {rest : α → Transaction β}
    (firstSucceeds : first.NeverRefused) (restSucceeds : ∀ value, (rest value).NeverRefused) :
    (first >>= rest).NeverRefused := by
  intro ledger refusal after refused
  rcases on_bind_eq_error.mp refused with atFirst | ⟨value, reached, _, atRest⟩
  · exact firstSucceeds ledger refusal after atFirst
  · exact restSucceeds value reached refusal after atRest

/-- What is never refused may stand behind an atomic transaction. -/
theorem Atomic.bind {first : Transaction α} {rest : α → Transaction β}
    (atomic : first.Atomic) (succeeds : ∀ value, (rest value).NeverRefused) :
    (first >>= rest).Atomic := by
  intro ledger refusal after refused
  rcases on_bind_eq_error.mp refused with atFirst | ⟨value, reached, _, atRest⟩
  · exact atomic ledger refusal after atFirst
  · exact (succeeds value reached refusal after atRest).elim

/-! ## Steps that only read -/

theorem readsOnly_get : (get : Transaction Ledger).ReadsOnly := fun _ => rfl

theorem readsOnly_throw (refusal : Refusal) : (throw refusal : Transaction α).ReadsOnly :=
  fun _ => rfl

theorem readsOnly_require (condition : Bool) (refusal : Refusal) :
    (require condition refusal).ReadsOnly := by
  intro ledger
  rw [on_require]

theorem readsOnly_requireOnline : requireOnline.ReadsOnly := by
  intro ledger
  rw [on_requireOnline]

theorem readsOnly_findTask (id : TaskId) : (findTask id).ReadsOnly := by
  intro ledger
  rw [on_findTask]

/-! ## Steps that are never refused -/

theorem neverRefused_pure (value : α) : (pure value : Transaction α).NeverRefused := by
  intro ledger refusal after refused
  rw [on_pure] at refused
  cases refused

theorem neverRefused_modify (write : Ledger → Ledger) :
    (modify write : Transaction PUnit).NeverRefused := by
  intro ledger refusal after refused
  rw [on_modify] at refused
  cases refused

/-- A write and the answer behind it. -/
theorem neverRefused_modify_pure (write : Ledger → Ledger) (value : α) :
    (modify write >>= fun _ => pure value : Transaction α).NeverRefused :=
  (neverRefused_modify write).bind fun _ => neverRefused_pure value

/-! ## The transactions -/

theorem atomic_allocateTask : allocateTask.Atomic := by
  intro ledger refusal after refused
  rw [allocateTask, on_bind, on_get] at refused
  by_cases fits : ledger.lastTask.val + 1 ≤ 4294967295
  · simp only [fits, ↓reduceDIte] at refused
    cases refused
  · simp only [fits, ↓reduceDIte, on_throw] at refused
    cases refused
    rfl

theorem atomic_deliver (notices : List Notice) (now : Instant) :
    (deliver notices now).Atomic := by
  intro ledger refusal after refused
  rw [deliver, on_bind, on_get] at refused
  by_cases fits : ledger.lastNotification.val + notices.length ≤ 4294967295
  · simp only [fits, ↓reduceDIte] at refused
    cases refused
  · simp only [fits, ↓reduceDIte, on_throw] at refused
    cases refused
    rfl

theorem atomic_create (signer : Account) (draft : Draft) (now : Instant) :
    (create signer draft now).Atomic := by
  apply (readsOnly_require _ _).bind_atomic
  intro _
  apply readsOnly_requireOnline.bind_atomic
  intro _
  apply atomic_allocateTask.bind
  intro id
  exact neverRefused_modify_pure _ _

theorem atomic_assign (signer : Account) (id : TaskId) (assignee : Account) (now : Instant) :
    (assign signer id assignee now).Atomic := by
  apply readsOnly_requireOnline.bind_atomic
  intro _
  apply (readsOnly_findTask id).bind_atomic
  intro task
  apply (readsOnly_require _ _).bind_atomic
  intro _
  apply (readsOnly_require _ _).bind_atomic
  intro _
  apply (readsOnly_require _ _).bind_atomic
  intro _
  apply (atomic_deliver _ now).bind
  intro announced
  exact neverRefused_modify_pure _ _

theorem atomic_applyStatus (actor : Account) (id : TaskId) (status : Status) (now : Instant) :
    (applyStatus actor id status now).Atomic := by
  apply (readsOnly_findTask id).bind_atomic
  intro task
  apply readsOnly_get.bind_atomic
  intro ledger
  apply (atomic_deliver _ now).bind
  intro announced
  exact neverRefused_modify_pure _ _

theorem atomic_changeStatus (signer : Account) (id : TaskId) (status : Status)
    (now : Instant) : (changeStatus signer id status now).Atomic := by
  apply readsOnly_requireOnline.bind_atomic
  intro _
  apply (readsOnly_findTask id).bind_atomic
  intro task
  apply (readsOnly_require _ _).bind_atomic
  intro _
  apply (readsOnly_require _ _).bind_atomic
  intro _
  apply (atomic_applyStatus signer id status now).bind
  intro events
  by_cases pending : status = .pendingVerification
  · simp only [pending, ↓reduceIte]
    exact neverRefused_modify_pure _ _
  · simp only [pending, ↓reduceIte]
    exact neverRefused_pure _

theorem atomic_vote (signer : Account) (id : TaskId) (approve : Bool) (now : Instant) :
    (vote signer id approve now).Atomic := by
  apply readsOnly_requireOnline.bind_atomic
  intro _
  apply (readsOnly_findTask id).bind_atomic
  intro task
  apply (readsOnly_require _ _).bind_atomic
  intro _
  apply (readsOnly_require _ _).bind_atomic
  intro _
  apply readsOnly_get.bind_atomic
  intro ledger
  apply (readsOnly_require _ _).bind_atomic
  intro _
  dsimp only
  -- Short of the quorum nothing can fail any more; otherwise the votes are dropped last.
  split
  · exact (neverRefused_modify_pure _ _).atomic
  · apply (atomic_applyStatus signer id _ now).bind
    intro events
    exact neverRefused_modify_pure _ _

theorem atomic_evaluate (signer : Account) (id : TaskId) (rating : Word8) (comment : String)
    (now : Instant) : (evaluate signer id rating comment now).Atomic := by
  apply (readsOnly_require _ _).bind_atomic
  intro _
  apply readsOnly_requireOnline.bind_atomic
  intro _
  apply (readsOnly_findTask id).bind_atomic
  intro task
  apply (readsOnly_require _ _).bind_atomic
  intro _
  apply (readsOnly_require _ _).bind_atomic
  intro _
  apply readsOnly_get.bind_atomic
  intro ledger
  apply (readsOnly_require _ _).bind_atomic
  intro _
  apply readsOnly_get.bind_atomic
  intro again
  apply (atomic_deliver _ now).bind
  intro announced
  exact neverRefused_modify_pure _ _

theorem atomic_markRead (signer : Account) (id : NotificationId) :
    (markRead signer id).Atomic := by
  apply readsOnly_requireOnline.bind_atomic
  intro _
  apply readsOnly_get.bind_atomic
  intro ledger
  cases ledger.notification? id with
  | none => exact (readsOnly_throw _).atomic
  | some notification =>
      apply (readsOnly_require _ _).bind_atomic
      intro _
      exact (neverRefused_modify_pure _ _).atomic

end Transaction

namespace Command

theorem atomic_transaction (command : Command) (now : Instant) :
    (command.transaction now).Atomic := by
  cases command with
  | create signer draft =>
      exact (Transaction.atomic_create signer draft now).bind fun _ =>
        Transaction.neverRefused_pure _
  | assign signer task assignee =>
      exact (Transaction.atomic_assign signer task assignee now).bind fun _ =>
        Transaction.neverRefused_pure _
  | changeStatus signer task status =>
      exact (Transaction.atomic_changeStatus signer task status now).bind fun _ =>
        Transaction.neverRefused_pure _
  | vote signer task approve =>
      exact (Transaction.atomic_vote signer task approve now).bind fun _ =>
        Transaction.neverRefused_pure _
  | evaluate signer task rating comment =>
      exact (Transaction.atomic_evaluate signer task rating comment now).bind fun _ =>
        Transaction.neverRefused_pure _
  | markRead signer notification =>
      exact (Transaction.atomic_markRead signer notification).bind fun _ =>
        Transaction.neverRefused_pure _

theorem ledger_eq_of_run_eq_error {command : Command} {now : Instant} {ledger after : Ledger}
    {refusal : Refusal} (refused : command.run now ledger = (.error refusal, after)) :
    after = ledger :=
  command.atomic_transaction now ledger refusal after refused

/-- A refused call leaves the whole ledger as it was, whatever the ledger and its
counters were, and publishes no event. -/
theorem refused_changes_nothing (command : Command) (now : Instant) (ledger after : Ledger)
    (refusal : Refusal) (refused : command.run now ledger = (.error refusal, after)) :
    after = ledger ∧ command.published now ledger = [] :=
  ⟨ledger_eq_of_run_eq_error refused, published_of_run_eq_error refused⟩

/-- A ledger with two votes on its only task and without a number for a notification. -/
def exhausted : Ledger :=
  let task := Task.fresh ⟨1, Nat.one_pos⟩ "Review" ⟨"alice"⟩ .epoch
  { Ledger.ofSnapshot .standard [{ task with status := .pendingVerification }] with
    ballots := [⟨task.id, ⟨"bob"⟩, true⟩, ⟨task.id, ⟨"carol"⟩, true⟩]
    lastNotification := 4294967295 }

/-- The vote that would decide is refused, and is not stored either. -/
theorem refused_verdict_changes_nothing :
    ∃ refusal after,
      (vote ⟨"dave"⟩ ⟨1, Nat.one_pos⟩ true).run .epoch exhausted = (.error refusal, after) ∧
        after = exhausted ∧
        (vote ⟨"dave"⟩ ⟨1, Nat.one_pos⟩ true).published .epoch exhausted = [] :=
  ⟨.rejected .notificationIdsExhausted, exhausted, rfl,
    refused_changes_nothing _ _ _ _ _ rfl⟩

end Command

end TaskBoard
