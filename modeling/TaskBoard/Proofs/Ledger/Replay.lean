import TaskBoard.Proofs.Ledger.History
import TaskBoard.Proofs.Ledger.Replica

/-!
# Replay of the events

The events that a history publishes lead a replica from the opening tasks to the
ledger that is reached.  Each write of the ledger is paired with the events that
tell of it; the receipts of the accepted calls are put together from such pairs.
-/

namespace TaskBoard

namespace Reputation

/-- The change is one from a reputation to its successor. -/
structure Records (reputation : Reputation) (outcome : Reputation × ScoreChange) : Prop where
  oldScore : outcome.2.oldScore = reputation.totalScore
  newScore : outcome.2.newScore = outcome.1.totalScore
  newLevel : outcome.2.newLevel = Level.ofScore outcome.2.newScore.val

theorem records_completion (reputation : Reputation) (rules : Rules) (difficulty : Difficulty)
    (now : Instant) : reputation.Records (reputation.recordCompletion rules difficulty now) :=
  ⟨rfl, rfl, rfl⟩

theorem records_rating (reputation : Reputation) (rules : Rules) (rating : Word8)
    (now : Instant) : reputation.Records (reputation.recordRating rules rating now) :=
  ⟨rfl, rfl, rfl⟩

theorem records_cancellation (reputation : Reputation) (rules : Rules) (now : Instant) :
    reputation.Records (reputation.recordCancellation rules now) :=
  ⟨rfl, rfl, rfl⟩

end Reputation

namespace Promotion

/-- The promotion is one from the reputation that the account has on the ledger. -/
def Updates (promotion : Promotion) (ledger : Ledger) : Prop :=
  (ledger.reputation promotion.account).Records (promotion.reputation, promotion.change)

theorem Updates.of_reputations_eq {promotion : Promotion} {ledger other : Ledger}
    (updates : promotion.Updates ledger) (same : other.reputations = ledger.reputations) :
    promotion.Updates other := by
  rw [Updates, Ledger.reputation, same]
  exact updates

theorem updates_of_promotion? {ledger : Ledger} {task : Task} {status : Status} {now : Instant}
    {promotion : Promotion}
    (earned : StatusChange.promotion? ledger task status now = some promotion) :
    promotion.Updates ledger := by
  unfold StatusChange.promotion? at earned
  split at earned
  · cases earned
    exact Reputation.records_completion _ _ _ _
  · cases earned
    exact Reputation.records_cancellation _ _ _
  · cases earned

theorem updates_of_ratingPromotion? {ledger : Ledger} {task : Task} {rating : Word8}
    {now : Instant} {promotion : Promotion}
    (earned : Transaction.ratingPromotion? ledger task rating now = some promotion) :
    promotion.Updates ledger := by
  obtain ⟨account, _, rfl⟩ := Option.map_eq_some_iff.mp earned
  exact Reputation.records_rating _ _ _ _

end Promotion

/-- A replica and the ledger that it mirrors change alike if the outlines show the change. -/
theorem Replica.Mirrors.updateTask {replica : Replica} {ledger : Ledger}
    (mirrors : replica.Mirrors ledger) (id : TaskId) {change : Task → Task}
    {outlined : Outline → Outline}
    (shown : ∀ task, Outline.ofTask (change task) = outlined (Outline.ofTask task)) :
    (replica.updateTask id outlined).Mirrors (ledger.updateTask id change) := by
  refine ⟨?_, mirrors.score, mirrors.achievers⟩
  simp only [Replica.updateTask, Ledger.updateTask, Ledger.changeTask]
  rw [mirrors.tasks, List.map_map, List.map_map]
  apply List.map_congr_left
  intro task _
  change (if task.id = id then outlined (Outline.ofTask task) else Outline.ofTask task) =
    Outline.ofTask (if task.id = id then change task else task)
  rw [← shown, apply_ite Outline.ofTask]

namespace Recounts

variable {ledger : Ledger}

/-! ## Writes and the events that tell of them -/

theorem created (numbered : ledger.Numbered) (signer : Account) (draft : Draft) (now : Instant)
    (fits : ledger.lastTask.val + 1 ≤ 4294967295) :
    Recounts [.taskCreated (ledger.nextTask fits) signer draft.title] ledger
      (ledger.addNew fits (draft.toTask (ledger.nextTask fits) signer now)) := by
  intro replica mirrors
  refine ⟨⟨trivial, trivial⟩, ?_, mirrors.score, mirrors.achievers⟩
  have behind : Ledger.putTask (draft.toTask (ledger.nextTask fits) signer now) ledger.tasks =
      ledger.tasks ++ [draft.toTask (ledger.nextTask fits) signer now] :=
    Ledger.putTask_eq_append (numbered.lt_nextTask fits)
  rw [Ledger.addNew, behind, List.map_append, ← mirrors.tasks]
  rfl

theorem assigned (ledger : Ledger) (id : TaskId) (assignee : Account) (now : Instant) :
    Recounts [.taskAssigned id assignee] ledger
      (ledger.updateTask id fun task => Task.touch { task with assignee := some assignee } now) := by
  intro replica mirrors
  exact ⟨⟨trivial, trivial⟩, mirrors.updateTask id fun _ => rfl⟩

theorem statusChanged {id : TaskId} {task : Task} (found : ledger.task? id = some task)
    (status : Status) (now : Instant) :
    Recounts [.statusChanged id task.status status] ledger
      (ledger.updateTask id fun task => Task.touch { task with status } now) := by
  intro replica mirrors
  have expected : replica.status? id = some task.status :=
    (mirrors.status?_eq id).trans (Ledger.status?_of_task?_eq_some found)
  exact ⟨⟨expected, trivial⟩, mirrors.updateTask id fun _ => rfl⟩

theorem unlocked (ledger : Ledger) (achievement : String) (achiever : Option Account) :
    Recounts (achiever.toList.map fun account => .achievementUnlocked account achievement) ledger
      (ledger.addAchiever? achiever) := by
  cases achiever with
  | none => exact of_unseen rfl rfl rfl
  | some account =>
      intro replica mirrors
      refine ⟨⟨trivial, trivial⟩, mirrors.tasks, mirrors.score, ?_⟩
      exact congrArg (fun achievers => achievers ++ [account]) mirrors.achievers

theorem rescored {promotion : Promotion} (updates : promotion.Updates ledger) :
    Recounts [.scoreChanged promotion.account promotion.task promotion.change.oldScore
      promotion.change.newScore] ledger (ledger.storePromotion promotion) := by
  intro replica mirrors
  refine ⟨⟨?_, trivial⟩, mirrors.tasks, ?_, mirrors.achievers⟩
  · exact (mirrors.score promotion.account).trans updates.oldScore.symm
  · intro account
    rw [Ledger.reputation_storePromotion, apply_ite Reputation.totalScore, ← mirrors.score,
      ← updates.newScore]
    rfl

theorem leveled {promotion : Promotion} (updates : promotion.Updates ledger) :
    Recounts
      (if promotion.change.leveledUp then
        [.levelUp promotion.account promotion.change.oldLevel promotion.change.newLevel]
      else [])
      (ledger.storePromotion promotion) (ledger.storePromotion promotion) := by
  split
  · intro replica mirrors
    refine ⟨⟨?_, trivial⟩, mirrors.tasks, mirrors.score, mirrors.achievers⟩
    have score : replica.score promotion.account = promotion.change.newScore := by
      rw [mirrors.score, Ledger.reputation_storePromotion, if_pos rfl, updates.newScore]
    rw [Replica.Expects, score, updates.newLevel]
  · exact of_unseen rfl rfl rfl

theorem promoted {promotion : Option Promotion}
    (updates : ∀ earned, promotion = some earned → earned.Updates ledger) :
    Recounts (promotion.toList.flatMap Promotion.events) ledger
      (ledger.storePromotion? promotion) := by
  cases promotion with
  | none => exact of_unseen rfl rfl rfl
  | some promotion =>
      have told := (rescored (updates promotion rfl)).append (leveled (updates promotion rfl))
      rw [Option.toList_some, List.flatMap_singleton]
      exact told

/-- Nothing changes by events that no replica looks at. -/
theorem of_ignored {events : List Event}
    (ignored : ∀ event ∈ events, ∀ replica : Replica,
      replica.Expects event ∧ replica.apply event = replica) :
    Recounts events ledger ledger := by
  induction events with
  | nil => exact of_unseen rfl rfl rfl
  | cons event rest ih =>
      intro replica mirrors
      have first := ignored event List.mem_cons_self replica
      have others := ih (fun other member => ignored other (List.mem_cons_of_mem _ member))
      rw [Replica.Follows, Replica.replay, List.foldl_cons, first.2]
      exact ⟨⟨first.1, (others replica mirrors).1⟩, (others replica mirrors).2⟩

theorem announced (ledger other : Ledger) (notices : List Notice) (now : Instant)
    (fits : ledger.lastNotification.val + notices.length ≤ 4294967295) :
    Recounts (ledger.announced notices now fits) other other := by
  apply of_ignored
  intro event member replica
  obtain ⟨notification, _, isAnnounced⟩ := List.mem_flatMap.mp member
  simp only [Notification.announcements, List.mem_cons, List.not_mem_nil, or_false] at isAnnounced
  rcases isAnnounced with rfl | rfl
  · exact ⟨trivial, rfl⟩
  · exact ⟨trivial, rfl⟩

/-! ## Receipts -/

theorem changed {actor : Account} {id : TaskId} {status : Status} {now : Instant} {task : Task}
    (found : ledger.task? id = some task)
    (fits : ledger.lastNotification.val +
      (StatusChange.plan ledger actor task status now).notices.length ≤ 4294967295) :
    Recounts
      (ledger.changeEvents task id status now (StatusChange.plan ledger actor task status now) fits)
      ledger
      (ledger.applyChange id status now (StatusChange.plan ledger actor task status now) fits) := by
  let change := StatusChange.plan ledger actor task status now
  -- The ledger numbers the notifications first, but the event of the status comes first;
  -- the two orders agree because no replica sees a notification.
  let stored := ledger.storeNotices change.notices now fits
  let moved := stored.updateTask id fun task => Task.touch { task with status } now
  have isStored : Recounts [] ledger stored := of_unseen rfl rfl rfl
  have isFound : stored.task? id = some task := found
  have isMoved := statusChanged isFound status now
  have isAnnounced := announced ledger moved change.notices now fits
  have isUnlocked := unlocked moved "first_task_completed" change.achiever
  have isPromoted : Recounts (change.promotion.toList.flatMap Promotion.events)
      (moved.addAchiever? change.achiever)
      ((moved.addAchiever? change.achiever).storePromotion? change.promotion) := by
    apply promoted
    intro promotion earned
    apply (Promotion.updates_of_promotion? earned).of_reputations_eq
    cases change.achiever with
    | none => rfl
    | some achiever => rfl
  exact (isStored.append isMoved).append (isAnnounced.append (isUnlocked.append isPromoted))

/-- The events of an accepted call tell how the ledger changes. -/
theorem of_accepted {now : Instant} {after : Ledger} {command : Command}
    {receipt : Receipt (Option TaskId)} (numbered : ledger.Numbered)
    (accepted : Command.Accepted now ledger command receipt after) :
    Recounts receipt.events ledger after := by
  cases accepted with
  | create titled online fits => exact created numbered _ _ now fits
  | @assign signer assignee id task online found byCreator toOther unassigned fits =>
      let notices := [Notice.assignment task assignee]
      have isStored : Recounts [] ledger (ledger.storeNotices notices now fits) :=
        of_unseen rfl rfl rfl
      have isAssigned := assigned (ledger.storeNotices notices now fits) id assignee now
      exact (isStored.append isAssigned).append (announced ledger _ notices now fits)
  | @changeStatus signer id status task online found byParty allowed fits =>
      have isChanged := changed found fits
      dsimp only
      split
      · exact isChanged.then_unseen rfl rfl rfl
      · exact isChanged
  | @ballot signer id approve =>
      have isSubmitted : Recounts [.voteSubmitted id signer approve] ledger ledger :=
        of_ignored (List.forall_mem_singleton.mpr fun _ => ⟨trivial, rfl⟩)
      exact isSubmitted.then_unseen rfl rfl rfl
  | @verdict signer id approve task outcome online found pending notCreator notAssignee firstVote
      reached counted fits =>
      have isSubmitted : Recounts [.voteSubmitted id signer approve] ledger ledger :=
        of_ignored (List.forall_mem_singleton.mpr fun _ => ⟨trivial, rfl⟩)
      exact isSubmitted.append ((changed found fits).then_unseen rfl rfl rfl)
  | @evaluate signer id rating comment task promotion inRange online found completed notAssignee
      firstRating earned fits =>
      let notices := promotion.toList.flatMap Promotion.notices
      let rated := (ledger.storeNotices notices now fits).addEvaluation
        ⟨id, task.assignee, signer, rating, comment, now⟩
      have isEvaluated : Recounts [.taskEvaluated id signer rating] ledger ledger :=
        of_ignored (List.forall_mem_singleton.mpr fun _ => ⟨trivial, rfl⟩)
      have isRated : Recounts [] ledger rated := of_unseen rfl rfl rfl
      have isPromoted : Recounts (promotion.toList.flatMap Promotion.events) rated
          (rated.storePromotion? promotion) := by
        apply promoted
        intro promotion isEarned
        rw [earned] at isEarned
        exact (Promotion.updates_of_ratingPromotion? isEarned).of_reputations_eq rfl
      exact (isEvaluated.append isRated).append
        (isPromoted.append (announced ledger _ notices now fits))
  | markRead => exact of_unseen rfl rfl rfl

end Recounts

namespace History

theorem opening_mirrors (history : History) :
    (Replica.opening history.opening.tasks).Mirrors history.opening := by
  induction history with
  | start rules snapshot => exact Replica.opening_mirrors rules snapshot
  | next earlier occasion ih => exact ih

theorem recounts (history : History) :
    Recounts history.events history.opening history.ledger := by
  induction history with
  | start rules snapshot => exact .of_unseen rfl rfl rfl
  | next earlier occasion ih =>
      apply ih.append
      have outcome := occasion.outcome earlier.ledger
      rw [ledger]
      generalize occasion.published earlier.ledger = events,
        occasion.after earlier.ledger = reached at outcome ⊢
      cases outcome with
      | refused => exact .of_unseen rfl rfl rfl
      | accepted call => exact .of_accepted earlier.numbered call
      | connection => exact .of_unseen rfl rfl rfl

/-- A replica of the opening tasks that is told of all events agrees with each of them
when it comes, and holds the tasks, scores and achievers of the ledger in the end. -/
theorem replay_mirrors (history : History) :
    let opening := Replica.opening history.opening.tasks
    opening.Follows history.events ∧ (opening.replay history.events).Mirrors history.ledger :=
  history.recounts _ history.opening_mirrors

end History

end TaskBoard
