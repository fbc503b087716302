import TaskBoard.Ledger.Format
import TaskBoard.Proofs.Task.Format

/-!
# The ledger is read back

Reputations, notifications and events are read back from their JSON.  The members of
an event besides its name are set aside and read by the record of its kind.
-/

namespace TaskBoard

open Json (Legible)

/-! ## Legible values -/

theorem Reputation.legible (reputation : Reputation) : Legible 1 reputation.encode := by
  apply Legible.object
  simp only [members, List.forall_mem_cons]
  exact ⟨Word32.legible _, .string _, Word32.legible _, Word32.legible _, Word32.legible _,
    Word32.legible _, .ofOption Instant.legible _, nofun⟩

theorem Notification.legible (notification : Notification) : Legible 1 notification.encode := by
  apply Legible.object
  simp only [List.forall_mem_cons]
  exact ⟨notification.id.legible, .string _, .string _, .ofOption Id.legible _, .string _, .bool _,
    notification.createdAt.legible, nofun⟩

theorem Event.legible (event : Event) : Legible 1 event.encode := by
  apply Legible.object
  simp only [List.forall_mem_cons]
  refine ⟨.string _, ?_⟩
  cases event <;> simp only [members, List.forall_mem_cons]
  case taskCreated => exact ⟨Id.legible _, .string _, .string _, nofun⟩
  case taskAssigned => exact ⟨Id.legible _, .string _, nofun⟩
  case statusChanged => exact ⟨Id.legible _, .string _, .string _, nofun⟩
  case voteSubmitted => exact ⟨Id.legible _, .string _, .bool _, nofun⟩
  case taskEvaluated => exact ⟨Id.legible _, .string _, Word8.legible _, nofun⟩
  case achievementUnlocked => exact ⟨.string _, .string _, nofun⟩
  case scoreChanged =>
    exact ⟨.string _, Id.legible _, Word32.legible _, Word32.legible _, nofun⟩
  case levelUp => exact ⟨.string _, .string _, .string _, nofun⟩
  case notificationCreated => exact ⟨.string _, Id.legible _, nofun⟩
  case notificationPushed => exact ⟨.string _, .string _, nofun⟩

/-! ## Values that are read back -/

theorem Level.reads (level : Level) : Level.decode.Reads level.encode level :=
  Decoder.choice_reads (by cases level <;> decide)

theorem NotificationKind.reads (kind : NotificationKind) :
    NotificationKind.decode.Reads kind.encode kind :=
  Decoder.choice_reads (by cases kind <;> decide)

/-- A reputation is read back. -/
theorem Reputation.reads (reputation : Reputation) :
    Reputation.decode.Reads reputation.encode reputation := by
  apply Decoder.Reads.of_holds
  · simp only [members, List.map_cons, List.map_nil]
    decide
  · intro access others holds
    have totalScore : totalScoreField.Gives access others reputation.totalScore :=
      holds.gives (Decoder.natural_reads _ _) rfl 0 rfl
    have level : levelField.Gives access others reputation.level :=
      holds.gives reputation.level.reads rfl 1 rfl
    have completed : completedTasksField.Gives access others reputation.completedTasks :=
      holds.gives (Decoder.natural_reads _ _) rfl 2 rfl
    have cancelled : cancelledTasksField.Gives access others reputation.cancelledTasks :=
      holds.gives (Decoder.natural_reads _ _) rfl 3 rfl
    have ratings : totalRatingsField.Gives access others reputation.totalRatings :=
      holds.gives (Decoder.natural_reads _ _) rfl 4 rfl
    have ratingSum : ratingSumField.Gives access others reputation.ratingSum :=
      holds.gives (Decoder.natural_reads _ _) rfl 5 rfl
    have lastUpdated : lastUpdatedField.Gives access others reputation.lastUpdated :=
      holds.gives (Instant.option_reads _) rfl 6 rfl
    have fits : ∀ slot ∈ slots, slot.Fits access others := by
      simp only [slots, List.forall_mem_cons]
      exact ⟨totalScore.fits, level.fits, completed.fits, cancelled.fits, ratings.fits,
        ratingSum.fits, lastUpdated.fits, nofun⟩
    apply Record.decode_object_eq_ok (by decide) fits
    rw [ofRecord, totalScore.read_eq_ok, level.read_eq_ok, completed.read_eq_ok,
      cancelled.read_eq_ok, ratings.read_eq_ok, ratingSum.read_eq_ok, lastUpdated.read_eq_ok]
    rfl

/-- A notification is read back. -/
theorem Notification.reads (notification : Notification) :
    Notification.decode.Reads notification.encode notification := by
  apply Decoder.Reads.of_holds
  · simp only [List.map_cons, List.map_nil]
    decide
  · intro access others holds
    have id : idField.Gives access others notification.id :=
      holds.gives notification.id.reads rfl 0 rfl
    have recipient : recipientField.Gives access others notification.recipient :=
      holds.gives notification.recipient.reads rfl 1 rfl
    have kind : kindField.Gives access others notification.kind :=
      holds.gives notification.kind.reads rfl 2 rfl
    have task : taskField.Gives access others notification.task :=
      holds.gives (Decoder.option_reads Id.reads (fun _ => nofun) _) rfl 3 rfl
    have message : messageField.Gives access others notification.message :=
      holds.gives (Decoder.string_reads _) rfl 4 rfl
    have isRead : readField.Gives access others notification.isRead :=
      holds.gives (Decoder.bool_reads _) rfl 5 rfl
    have createdAt : createdAtField.Gives access others notification.createdAt :=
      holds.gives (Decoder.instant_reads _) rfl 6 rfl
    have fits : ∀ slot ∈ slots, slot.Fits access others := by
      simp only [slots, List.forall_mem_cons]
      exact ⟨id.fits, recipient.fits, kind.fits, task.fits, message.fits, isRead.fits,
        createdAt.fits, nofun⟩
    apply Record.decode_object_eq_ok (by decide) fits
    rw [ofRecord, id.read_eq_ok, recipient.read_eq_ok, kind.read_eq_ok, task.read_eq_ok,
      message.read_eq_ok, isRead.read_eq_ok, createdAt.read_eq_ok]
    rfl

namespace Event

/-- No member of an event has the name of the member that says what happened. -/
theorem distinct_members (event : Event) :
    ((("event", Json.string event.name) :: event.members).map Prod.fst).Nodup := by
  cases event <;> simp [members]

/-- A changed score is read from members that hold its own. -/
theorem decodeScoreChanged_eq_ok {access : Access} {others : List (String × Json)}
    {account : Account} {task : TaskId} {before after : Word32}
    (holds : Holds (members (.scoreChanged account task before after)) others) :
    decodeScoreChanged access (.object others) = .ok (.scoreChanged account task before after) := by
  have givesAccount : accountField.Gives access others account :=
    holds.gives account.reads rfl 0 rfl
  have givesTask : taskField.Gives access others task := holds.gives task.reads rfl 1 rfl
  have givesBefore : oldScoreField.Gives access others before :=
    holds.gives (Decoder.natural_reads _ _) rfl 2 rfl
  have givesAfter : newScoreField.Gives access others after :=
    holds.gives (Decoder.natural_reads _ _) rfl 3 rfl
  have fits : ∀ slot ∈ [accountField.slot, taskField.slot, oldScoreField.slot, newScoreField.slot],
      slot.Fits access others := by
    simp only [List.forall_mem_cons]
    exact ⟨givesAccount.fits, givesTask.fits, givesBefore.fits, givesAfter.fits, nofun⟩
  apply Record.decode_object_eq_ok (by decide) fits
  rw [givesAccount.read_eq_ok, givesTask.read_eq_ok, givesBefore.read_eq_ok,
    givesAfter.read_eq_ok]
  rfl

/-- An event is read back. -/
theorem reads (event : Event) : Event.decode.Reads event.encode event := by
  cases event with
  | taskCreated task creator title =>
      refine Decoder.tagged_reads rfl (distinct_members _) fun others holds => ?_
      exact Record.decode_three_eq_ok (by decide) (holds.gives task.reads rfl 0 rfl)
        (holds.gives creator.reads rfl 1 rfl) (holds.gives (Decoder.string_reads title) rfl 2 rfl)
        taskCreated
  | taskAssigned task assignee =>
      refine Decoder.tagged_reads rfl (distinct_members _) fun others holds => ?_
      exact Record.decode_two_eq_ok (by decide) (holds.gives task.reads rfl 0 rfl)
        (holds.gives assignee.reads rfl 1 rfl) taskAssigned
  | statusChanged task before after =>
      refine Decoder.tagged_reads rfl (distinct_members _) fun others holds => ?_
      exact Record.decode_three_eq_ok (by decide) (holds.gives task.reads rfl 0 rfl)
        (holds.gives before.reads rfl 1 rfl) (holds.gives after.reads rfl 2 rfl) statusChanged
  | voteSubmitted task voter approve =>
      refine Decoder.tagged_reads rfl (distinct_members _) fun others holds => ?_
      exact Record.decode_three_eq_ok (by decide) (holds.gives task.reads rfl 0 rfl)
        (holds.gives voter.reads rfl 1 rfl) (holds.gives (Decoder.bool_reads approve) rfl 2 rfl)
        voteSubmitted
  | taskEvaluated task evaluator rating =>
      refine Decoder.tagged_reads rfl (distinct_members _) fun others holds => ?_
      exact Record.decode_three_eq_ok (by decide) (holds.gives task.reads rfl 0 rfl)
        (holds.gives evaluator.reads rfl 1 rfl)
        (holds.gives (Decoder.natural_reads _ rating) rfl 2 rfl) taskEvaluated
  | achievementUnlocked account achievement =>
      refine Decoder.tagged_reads rfl (distinct_members _) fun others holds => ?_
      exact Record.decode_two_eq_ok (by decide) (holds.gives account.reads rfl 0 rfl)
        (holds.gives (Decoder.string_reads achievement) rfl 1 rfl) achievementUnlocked
  | scoreChanged account task before after =>
      exact Decoder.tagged_reads rfl (distinct_members _) fun _ => decodeScoreChanged_eq_ok
  | levelUp account before after =>
      refine Decoder.tagged_reads rfl (distinct_members _) fun others holds => ?_
      exact Record.decode_three_eq_ok (by decide) (holds.gives account.reads rfl 0 rfl)
        (holds.gives before.reads rfl 1 rfl) (holds.gives after.reads rfl 2 rfl) levelUp
  | notificationCreated recipient notification =>
      refine Decoder.tagged_reads rfl (distinct_members _) fun others holds => ?_
      exact Record.decode_two_eq_ok (by decide) (holds.gives recipient.reads rfl 0 rfl)
        (holds.gives notification.reads rfl 1 rfl) notificationCreated
  | notificationPushed recipient kind =>
      refine Decoder.tagged_reads rfl (distinct_members _) fun others holds => ?_
      exact Record.decode_two_eq_ok (by decide) (holds.gives recipient.reads rfl 0 rfl)
        (holds.gives kind.reads rfl 1 rfl) notificationPushed

end Event

end TaskBoard
