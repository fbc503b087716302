import TaskBoard.Proofs.Ledger.Rewards
import TaskBoard.Proofs.Ledger.Transitions

/-!
# News of a status

When the status of a task changes, its parties but the signer are told, and nobody else is.
The parties are listed without a look at whether they are one account: a creator who is the
assignee as well is told twice.  No call assigns a task to its creator, so such a task was in
the snapshot; and as its creator is its only party, the news are of a decision by vote.
-/

namespace TaskBoard

/-! ## Parties -/

/-- The creator of a task and its assignee are its parties. -/
def Task.IsParty (task : Task) (account : Account) : Prop :=
  task.creator = account ∨ task.assignee = some account

/-- Whether a task is assigned to its own creator. -/
def Task.isSelfAssigned (task : Task) : Bool := task.assignee == some task.creator

/-- A task that is assigned to its creator has one party. -/
theorem Task.eq_creator_of_isParty {task : Task} {account : Account}
    (selfAssigned : task.isSelfAssigned = true) (party : task.IsParty account) :
    account = task.creator := by
  rcases party with isCreator | isAssignee
  · exact isCreator.symm
  · rw [isSelfAssigned, isAssignee, beq_iff_eq] at selfAssigned
    exact Option.some.inj selfAssigned

/-- Whether the task under an identifier is assigned to its own creator. -/
def Ledger.isSelfAssigned (ledger : Ledger) (id : TaskId) : Bool :=
  (ledger.task? id).any Task.isSelfAssigned

/-- On no occasion a task comes to be assigned to its creator, or ceases to be. -/
theorem Occasion.isSelfAssigned_after (occasion : Occasion) {ledger : Ledger}
    (numbered : ledger.Numbered) (id : TaskId) :
    (occasion.after ledger).isSelfAssigned id = ledger.isSelfAssigned id := by
  rw [Ledger.isSelfAssigned, Ledger.isSelfAssigned]
  cases found : ledger.task? id with
  | none =>
      cases stored : (occasion.after ledger).task? id with
      | none => rfl
      | some later =>
          obtain ⟨signer, draft, now, _, rfl⟩ := created_of_new numbered found stored
          rfl
  | some task =>
      obtain ⟨later, stored, rfl | alters⟩ := task_after numbered found occasion
      · rw [stored]
      · rw [stored]
        cases alters with
        | assigned unassigned toOther =>
            simp [Task.isSelfAssigned, Task.touch, unassigned, toOther]
        | moved | decided => rfl

/-- The tasks that are assigned to their creators are those of the snapshot. -/
theorem History.isSelfAssigned_ledger (history : History) (id : TaskId) :
    history.ledger.isSelfAssigned id = history.opening.isSelfAssigned id := by
  induction history with
  | start rules snapshot => rfl
  | next earlier occasion ih => exact (occasion.isSelfAssigned_after earlier.numbered id).trans ih

/-! ## What is planned -/

/-- Whether the notifications of a kind tell of the status of a task. -/
def NotificationKind.tellsStatus (kind : NotificationKind) : Bool :=
  kind == .taskStatusChanged || kind == .verificationRequested

/-- A verification is requested; every other status is told as such. -/
theorem Notice.kindFor_eq (status : Status) :
    kindFor status =
      if status = .pendingVerification then .verificationRequested else .taskStatusChanged := by
  cases status
  all_goals rfl

theorem Notice.tellsStatus_kindFor (status : Status) : (kindFor status).tellsStatus = true := by
  cases status
  all_goals rfl

namespace StatusChange

theorem mem_audience {task : Task} {actor account : Account} :
    account ∈ audience task actor ↔ task.IsParty account ∧ account ≠ actor := by
  rw [audience, List.mem_filter, List.mem_cons, Option.mem_toList, Task.IsParty, bne_iff_ne,
    eq_comm]

/-- A party other than the actor is listed once, or twice if it is both parties. -/
theorem count_audience {task : Task} {actor account : Account} (party : task.IsParty account)
    (notActor : account ≠ actor) :
    (audience task actor).count account = if task.isSelfAssigned then 2 else 1 := by
  have told : (account != actor) = true := bne_iff_ne.mpr notActor
  rw [audience, @List.count_filter _ _ _ (fun party => party != actor) account _ told,
    List.count_cons, Task.isSelfAssigned]
  cases assigned : task.assignee with
  | none =>
      rcases party with rfl | isAssignee
      · simp
      · rw [assigned] at isAssignee
        cases isAssignee
  | some assignee =>
      rcases party with rfl | isAssignee
      · by_cases same : assignee = task.creator
        · simp [same]
        · simp [same]
      · rw [assigned] at isAssignee
        cases isAssignee
        by_cases same : task.creator = account
        · simp [same]
        · simp [same, Ne.symm same]

/-- Of a status, the audience is told by notices of the kind for it. -/
theorem filterMap_addressee?_plan {kind : NotificationKind} (tells : kind.tellsStatus = true)
    (ledger : Ledger) (actor : Account) (task : Task) (status : Status) (now : Instant) :
    (plan ledger actor task status now).notices.filterMap (Notice.addressee? kind) =
      if kind = Notice.kindFor status then audience task actor else [] := by
  rw [plan, List.filterMap_append, List.filterMap_append, List.filterMap_map]
  have noAchievement : ((achiever? ledger task status).toList.map
      (Notice.achievement task)).filterMap (Notice.addressee? kind) = [] := by
    apply Notice.filterMap_addressee?_eq_nil
    intro notice member
    obtain ⟨account, _, rfl⟩ := List.mem_map.mp member
    rintro rfl
    cases tells
  have noLevel : ((promotion? ledger task status now).toList.flatMap
      Promotion.notices).filterMap (Notice.addressee? kind) = [] := by
    apply Notice.filterMap_addressee?_eq_nil
    intro notice member
    obtain ⟨promotion, _, isNotice⟩ := List.mem_flatMap.mp member
    rw [Promotion.kind_of_mem_notices isNotice]
    rintro rfl
    cases tells
  rw [noAchievement, noLevel, List.append_nil, List.append_nil]
  split
  · next same =>
    have everybody : Notice.addressee? kind ∘ Notice.move task status = some := by
      funext account
      exact if_pos same.symm
    rw [everybody, List.filterMap_some]
  · next different =>
    rw [List.filterMap_eq_nil_iff]
    intro account _
    exact if_neg (Ne.symm different)

end StatusChange

/-! ## What is told -/

namespace Ledger

/-- How many new notifications of a kind an account gets. -/
def newsCount (ledger after : Ledger) (kind : NotificationKind) (account : Account) : Nat :=
  (ledger.newNotifications after).countP fun notification =>
    notification.kind == kind && notification.recipient == account

theorem newsCount_eq (ledger after : Ledger) (kind : NotificationKind) (account : Account) :
    ledger.newsCount after kind account =
      ((ledger.newNotifications after).filterMap (Notification.addressee? kind)).count account := by
  rw [newsCount, List.count, List.countP_filterMap]
  apply List.countP_congr
  intro notification _
  rw [Notification.addressee?]
  by_cases same : notification.kind = kind
  · simp [same]
  · simp [same]

end Ledger

namespace Occasion

/-- An accepted call that changes the status of a task: one of a party, or the vote that
reaches the quorum. -/
inductive ChangesStatus (ledger : Ledger) (id : TaskId) : Occasion → Account → Status → Prop where
  | byParty {signer : Account} {status : Status} {now : Instant}
      (accepted : (Command.changeStatus signer id status).isAccepted now ledger = true) :
      ChangesStatus ledger id (.call (.changeStatus signer id status) now) signer status
  | byVote {signer : Account} {approve : Bool} {now : Instant}
      (accepted : (Command.vote signer id approve).isAccepted now ledger = true)
      (full : Ledger.quorum ≤ (ledger.ballotsOn id).length + 1) :
      ChangesStatus ledger id (.call (.vote signer id approve) now) signer
        (Transaction.verdict (ledger.ballotsOn id ++ [⟨id, signer, approve⟩]))

/-- What comes of a change of the status of a task: the task has another status, and what is
planned for its parties is told. -/
structure Follows (ledger : Ledger) (task : Task) (signer : Account) (status : Status)
    (occasion : Occasion) : Prop where
  stored : (occasion.after ledger).status? task.id = some status
  changed : status ≠ task.status
  byParty_or_byVote : task.IsParty signer ∨
    ∃ approve now, occasion = .call (.vote signer task.id approve) now
  told : ∃ now, ∀ kind,
    (ledger.newNotifications (occasion.after ledger)).filterMap (Notification.addressee? kind) =
      (StatusChange.plan ledger signer task status now).notices.filterMap
        (Notice.addressee? kind)

variable {ledger : Ledger} {id : TaskId} {task : Task} {signer : Account} {status : Status}
variable {occasion : Occasion}

theorem ChangesStatus.follows (changes : occasion.ChangesStatus ledger id signer status)
    (enumerates : ledger.Enumerates) (found : ledger.task? id = some task) :
    Follows ledger task signer status occasion := by
  obtain rfl := Ledger.id_of_task?_eq_some found
  cases changes with
  | @byParty _ _ now accepted =>
      obtain ⟨receipt, after, call⟩ := Command.accepted_of_isAccepted accepted
      have reached := after_of_accepted call
      cases call with
      | changeStatus online same byParty allowed fits =>
          cases found.symm.trans same
          refine ⟨?_, Status.ne_of_allows allowed, .inl byParty, now, fun kind => ?_⟩
          · rw [reached,
              Ledger.read_ite_clearBallots _ _ _ (fun after => after.status? task.id) rfl]
            exact Ledger.status?_applyChange _ _ _ _ _ fits found
          · rw [reached,
              Ledger.read_ite_clearBallots _ _ _ (fun after => ledger.newNotifications after) rfl]
            exact Ledger.filterMap_addressee?_of_stored enumerates fits
              (ledger.notifications_applyChange _ _ _ _ fits) kind
  | @byVote _ approve now accepted full =>
      obtain ⟨receipt, after, call⟩ := Command.accepted_of_isAccepted accepted
      have reached := after_of_accepted call
      cases call with
      | ballot online same pending notCreator notAssignee firstVote short =>
          exact absurd short (Nat.not_lt.mpr full)
      | verdict online same pending notCreator notAssignee firstVote full counted fits =>
          cases found.symm.trans same
          subst counted
          refine ⟨?_, ?_, .inr ⟨approve, now, rfl⟩, now, fun kind => ?_⟩
          · rw [reached]
            exact Ledger.status?_applyChange _ _ _ _ _ fits found
          · rw [pending]
            exact Status.ne_of_allows (Status.allows_iff.mpr (Status.verdict_mem_next _))
          · rw [reached]
            exact Ledger.filterMap_addressee?_of_stored enumerates fits
              (ledger.notifications_applyChange _ _ _ _ fits) kind

/-- The status of a task is another one after an occasion exactly if the occasion changes it. -/
theorem exists_changesStatus_iff (numbered : ledger.Numbered) (enumerates : ledger.Enumerates)
    (found : ledger.task? id = some task) :
    (∃ signer status, occasion.ChangesStatus ledger id signer status) ↔
      (occasion.after ledger).status? id ≠ some task.status := by
  obtain rfl := Ledger.id_of_task?_eq_some found
  constructor
  · rintro ⟨signer, status, changes⟩
    have follows := changes.follows enumerates found
    rw [follows.stored]
    exact fun same => follows.changed (Option.some.inj same)
  · intro changed
    obtain ⟨later, stored, same | ⟨_, moves⟩⟩ := status_after numbered found occasion
    · exact absurd ((Ledger.status?_of_task?_eq_some stored).trans (congrArg some same)) changed
    · have accepted {command : Command} {now : Instant} (isCall : occasion = .call command now) :
          command.isAccepted now ledger = true := by
        subst isCall
        apply Command.isAccepted_of_after_ne
        intro unchanged
        rw [Occasion.after, unchanged] at changed
        exact changed (Ledger.status?_of_task?_eq_some found)
      cases moves with
      | @byParty signer now party => exact ⟨signer, _, .byParty (accepted rfl)⟩
      | @byVerdict signer approve now pending notCreator notAssignee decides =>
          exact ⟨signer, _, .byVote (accepted rfl) decides⟩

/-- The audience of a change is told of the status, and nobody is told of another. -/
theorem Follows.newsCount (follows : Follows ledger task signer status occasion)
    {kind : NotificationKind} (tells : kind.tellsStatus = true) (account : Account) :
    ledger.newsCount (occasion.after ledger) kind account =
      if kind = Notice.kindFor status then (StatusChange.audience task signer).count account
      else 0 := by
  obtain ⟨now, told⟩ := follows.told
  rw [Ledger.newsCount_eq, told, StatusChange.filterMap_addressee?_plan tells]
  split
  · rfl
  · rfl

end Occasion

namespace History

/-- When the status of a task changes, each of its parties but the signer gets one new
notification of the kind for the status, or two if the snapshot had the task assigned to its
creator; nobody else gets one of a kind that tells of a status.  Where there are two, the
status was changed by a vote. -/
theorem news_of_status (history : History) (id : TaskId) (task : Task) (signer : Account)
    (status : Status) (occasion : Occasion)
    (found : history.ledger.task? id = some task)
    (changes : occasion.ChangesStatus history.ledger id signer status) :
    let after := occasion.after history.ledger
    let kindOfStatus : NotificationKind :=
      if status = .pendingVerification then .verificationRequested else .taskStatusChanged
    after.status? id = some status ∧ status ≠ task.status ∧
      (∀ account, task.IsParty account → account ≠ signer →
        history.ledger.newsCount after kindOfStatus account =
          if history.opening.isSelfAssigned id then 2 else 1) ∧
      (∀ kind account, kind.tellsStatus = true →
        0 < history.ledger.newsCount after kind account →
          kind = kindOfStatus ∧ task.IsParty account ∧ account ≠ signer ∧
            (history.opening.isSelfAssigned id = true →
              ∃ approve now, occasion = .call (.vote signer id approve) now)) := by
  intro after kindOfStatus
  obtain rfl := Ledger.id_of_task?_eq_some found
  have follows := changes.follows history.enumerates found
  have isKind : Notice.kindFor status = kindOfStatus := Notice.kindFor_eq status
  have selfAssigned : task.isSelfAssigned = history.opening.isSelfAssigned task.id := by
    rw [← history.isSelfAssigned_ledger, Ledger.isSelfAssigned, found, Option.any_some]
  refine ⟨follows.stored, follows.changed, ?_, ?_⟩
  · intro account party notSigner
    have counted := follows.newsCount (Notice.tellsStatus_kindFor status) account
    rw [if_pos rfl, StatusChange.count_audience party notSigner, selfAssigned, isKind] at counted
    exact counted
  · intro kind account tells told
    replace told := Nat.lt_of_lt_of_eq told (follows.newsCount tells account)
    split at told
    · next same =>
      obtain ⟨party, notSigner⟩ := StatusChange.mem_audience.mp (List.count_pos_iff.mp told)
      refine ⟨same.trans isKind, party, notSigner, fun bothParties => ?_⟩
      rw [← selfAssigned] at bothParties
      -- The one party of such a task is told, so it has not signed.
      rcases follows.byParty_or_byVote with bySigner | byVote
      · exact absurd ((Task.eq_creator_of_isParty bothParties party).trans
          (Task.eq_creator_of_isParty bothParties bySigner).symm) notSigner
      · exact byVote
    · cases told

/-- Bob, who works on a task of alice's, requests its verification: alice is told once, and
bob is not. -/
theorem news_of_status_request :
    let id : TaskId := ⟨1, Nat.one_pos⟩
    let request : Occasion := .call (.changeStatus ⟨"bob"⟩ id .pendingVerification) .epoch
    ∃ history : History, ∃ task, history.ledger.task? id = some task ∧
      request.ChangesStatus history.ledger id ⟨"bob"⟩ .pendingVerification ∧
      let after := request.after history.ledger
      history.ledger.newsCount after .verificationRequested ⟨"alice"⟩ = 1 ∧
        history.ledger.newsCount after .verificationRequested ⟨"bob"⟩ = 0 := by
  intro id request
  let task := { Task.fresh id "Review" ⟨"alice"⟩ .epoch with
    assignee := some ⟨"bob"⟩, status := .inProgress }
  let history := start .standard [task]
  have changes : request.ChangesStatus history.ledger id ⟨"bob"⟩ .pendingVerification :=
    .byParty rfl
  obtain ⟨_, _, once, others⟩ :=
    news_of_status history id task ⟨"bob"⟩ .pendingVerification request rfl changes
  refine ⟨history, task, rfl, changes, once ⟨"alice"⟩ (.inl rfl) (by decide), ?_⟩
  apply Nat.eq_zero_of_not_pos
  intro told
  exact (others .verificationRequested ⟨"bob"⟩ rfl told).2.2.1 rfl

/-- A task in a snapshot is assigned to its creator alice and awaits verification, and two
accounts vote on it. -/
def selfAssignedReview : History :=
  let task := { Task.fresh ⟨1, Nat.one_pos⟩ "Review" ⟨"alice"⟩ .epoch with
    assignee := some ⟨"alice"⟩, status := .pendingVerification }
  ((start .standard [task]).next
    (.call (.vote ⟨"bob"⟩ task.id true) .epoch)).next
    (.call (.vote ⟨"carol"⟩ task.id false) .epoch)

/-- It is not true that every party is told once: when dave's vote decides, alice is told
twice of the one change. -/
theorem selfAssignedReview_told_twice :
    let id : TaskId := ⟨1, Nat.one_pos⟩
    let vote : Occasion := .call (.vote ⟨"dave"⟩ id false) .epoch
    ∃ task, selfAssignedReview.ledger.task? id = some task ∧ task.IsParty ⟨"alice"⟩ ∧
      vote.ChangesStatus selfAssignedReview.ledger id ⟨"dave"⟩ .inProgress ∧
      selfAssignedReview.ledger.newsCount (vote.after selfAssignedReview.ledger)
        .taskStatusChanged ⟨"alice"⟩ = 2 := by
  intro id vote
  have changes : vote.ChangesStatus selfAssignedReview.ledger id ⟨"dave"⟩ .inProgress :=
    .byVote rfl (Nat.le_refl 3)
  have follows := changes.follows selfAssignedReview.enumerates rfl
  have tells : NotificationKind.taskStatusChanged.tellsStatus = true := rfl
  exact ⟨_, rfl, .inl rfl, changes, follows.newsCount tells ⟨"alice"⟩⟩

end History

end TaskBoard
