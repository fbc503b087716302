import TaskBoard.Proofs.Ledger.Listing
import TaskBoard.Proofs.Ledger.Transitions
import TaskBoard.Proofs.Number.CappedSums

/-!
# Merits

An account has merits in the tasks that are completed or cancelled while they are
assigned to it, and in the ratings of such tasks.  Which merits a history brings is
told by the statuses and the accepted ratings alone.  The reputation of an account is
the record of its merits, in order, and nothing else.
-/

namespace TaskBoard

/-- What counts for the reputation of an account. -/
inductive Merit where
  | completion (difficulty : Difficulty) (now : Instant)
  | cancellation (now : Instant)
  | rating (rating : Word8) (now : Instant)

namespace Merit

/-- The reputation with one more merit recorded. -/
def record (rules : Rules) (reputation : Reputation) : Merit → Reputation
  | completion difficulty now => (reputation.recordCompletion rules difficulty now).1
  | cancellation now => (reputation.recordCancellation rules now).1
  | rating given now => (reputation.recordRating rules given now).1

/-- The rating that a merit consists in, if it is one. -/
def rating? : Merit → Option Word8
  | rating given _ => some given
  | completion _ _ => none
  | cancellation _ => none

@[simp] theorem rating?_rating (given : Word8) (now : Instant) :
    (rating given now).rating? = some given := rfl

end Merit

/-- The merit of an account in a task that has reached a status: that the task is
completed or cancelled now, was not before, and is assigned to the account. -/
def Task.merit? (task : Task) (account : Account) (reached : Option Status) (now : Instant) :
    Option Merit :=
  if task.assignee = some account ∧ reached ≠ some task.status then
    match reached with
    | some .completed => some (.completion task.difficulty now)
    | some .cancelled => some (.cancellation now)
    | _ => none
  else none

/-- The merits of an account in the tasks between a ledger and a later one. -/
def Ledger.taskMerits (ledger after : Ledger) (account : Account) (now : Instant) : List Merit :=
  ledger.tasks.filterMap fun task => task.merit? account (after.status? task.id) now

/-- The rating that a call gives to the work of an account, if the ledger accepts it. -/
def Command.ratingOf? (command : Command) (now : Instant) (ledger : Ledger)
    (account : Account) : Option Word8 :=
  match command with
  | evaluate signer task rating comment =>
      if (evaluate signer task rating comment).isAccepted now ledger ∧
          (ledger.task? task).bind Task.assignee = some account then
        some rating
      else none
  | _ => none

/-- The merits of an account on an occasion: in the tasks whose status changes, and in
the rating that is given. -/
def Occasion.merits (occasion : Occasion) (ledger : Ledger) (account : Account) : List Merit :=
  match occasion with
  | call command now =>
      ledger.taskMerits ((call command now).after ledger) account now ++
        (command.ratingOf? now ledger account).toList.map fun rating => .rating rating now
  | connection _ => []

/-- The ratings stored for tasks that an account was assigned to, in order. -/
def Ledger.ratingsFor (ledger : Ledger) (account : Account) : List Word8 :=
  (ledger.evaluations.filter fun evaluation => evaluation.assignee == some account).map
    Evaluation.rating

namespace History

/-- The rules that the history begins with. -/
def rules : History → Rules
  | start rules _ => rules
  | next earlier _ => earlier.rules

/-- The merits of an account since the start, in order. -/
def merits (account : Account) : History → List Merit
  | start _ _ => []
  | next earlier occasion => earlier.merits account ++ occasion.merits earlier.ledger account

end History

/-! ## Recording merits -/

namespace Merit

variable (rules : Rules) (merits : List Merit) (reputation : Reputation)

/-- The number of ratings grows with the ratings among the merits and stops at its bound. -/
theorem totalRatings_foldl_record :
    (merits.foldl (record rules) reputation).totalRatings.val =
      min (reputation.totalRatings.val + (merits.filterMap rating?).length) 4294967295 := by
  have counted (state : Reputation) (merit : Merit) :
      (record rules state merit).totalRatings.val =
        min (state.totalRatings.val + (merit.rating?.map fun _ => 1).getD 0) 4294967295 := by
    cases merit with
    | completion | cancellation => exact (Nat.min_eq_left state.totalRatings.le_limit).symm
    | rating => rfl
  have stopped := foldl_filterMap_stops_at (fun state : Reputation => state.totalRatings.val)
    rating? (fun _ => 1) counted merits reputation.totalRatings.le_limit
  simpa using stopped

/-- The sum of the ratings grows with the ratings among the merits and stops at its bound. -/
theorem ratingSum_foldl_record :
    (merits.foldl (record rules) reputation).ratingSum.val =
      min (reputation.ratingSum.val + ((merits.filterMap rating?).map Bounded.val).sum)
        4294967295 := by
  have added (state : Reputation) (merit : Merit) :
      (record rules state merit).ratingSum.val =
        min (state.ratingSum.val + (merit.rating?.map Bounded.val).getD 0) 4294967295 := by
    cases merit with
    | completion | cancellation => exact (Nat.min_eq_left state.ratingSum.le_limit).symm
    | rating given now =>
        have cast : (record rules state (.rating given now)).ratingSum.val =
            min (state.ratingSum.val + min given.val 4294967295) 4294967295 := rfl
        have bound := given.le_limit
        rw [cast, rating?_rating, Option.map_some, Option.getD_some]
        omega
  exact foldl_filterMap_stops_at (fun state : Reputation => state.ratingSum.val) rating?
    Bounded.val added merits reputation.ratingSum.le_limit

end Merit

/-! ## Merits in tasks -/

/-- A task brings a merit to its assignee only, and when it comes to an end. -/
theorem Task.of_merit?_eq_some {task : Task} {account : Account} {reached : Option Status}
    {now : Instant} {merit : Merit} (gives : task.merit? account reached now = some merit) :
    task.assignee = some account ∧ merit.rating? = none ∧
      ∃ status, status ≠ task.status ∧ (status = .completed ∨ status = .cancelled) ∧
        reached = some status := by
  unfold Task.merit? at gives
  split at gives
  · next both =>
    obtain ⟨assigned, changed⟩ := both
    refine ⟨assigned, ?_⟩
    split at gives
    · cases gives
      exact ⟨rfl, .completed, fun same => changed (congrArg some same), .inl rfl, rfl⟩
    · cases gives
      exact ⟨rfl, .cancelled, fun same => changed (congrArg some same), .inr rfl, rfl⟩
    · cases gives
  · cases gives

namespace Ledger

variable {ledger after : Ledger} {account : Account} {now : Instant}

theorem merit?_of_status_eq {task : Task} :
    task.merit? account (some task.status) now = none :=
  if_neg fun both => both.2 rfl

/-- Nobody has merits in tasks that keep their statuses. -/
theorem taskMerits_eq_nil
    (kept : ∀ task ∈ ledger.tasks, after.status? task.id = some task.status) :
    ledger.taskMerits after account now = [] := by
  rw [taskMerits, List.filterMap_eq_nil_iff]
  intro task member
  rw [kept task member]
  exact merit?_of_status_eq

/-- If all other tasks keep their statuses, there can be merits in one task only. -/
theorem taskMerits_eq_toList (ascending : Ascending ledger.tasks) {task : Task}
    (member : task ∈ ledger.tasks)
    (kept : ∀ other ∈ ledger.tasks, other.id ≠ task.id →
      after.status? other.id = some other.status) :
    ledger.taskMerits after account now =
      (task.merit? account (after.status? task.id) now).toList := by
  apply ascending.filterMap_eq_toList member
  intro other isOther different
  rw [kept other isOther different]
  exact merit?_of_status_eq

theorem rating?_of_mem_taskMerits {merit : Merit}
    (member : merit ∈ ledger.taskMerits after account now) : merit.rating? = none := by
  obtain ⟨task, _, gives⟩ := List.mem_filterMap.mp member
  exact (Task.of_merit?_eq_some gives).2.1

/-! ## What the ledger stores -/

theorem rules_of_accepted {command : Command} {receipt : Receipt (Option TaskId)}
    (accepted : Command.Accepted now ledger command receipt after) : after.rules = ledger.rules := by
  cases accepted with
  | create | assign | ballot | markRead => rfl
  | changeStatus online found byParty allowed fits =>
      rw [read_ite_clearBallots _ _ _ Ledger.rules rfl]
      exact ledger.rules_applyChange _ _ now _ fits
  | verdict online found pending notCreator notAssignee firstVote full counted fits =>
      exact ledger.rules_applyChange _ _ now _ fits
  | @evaluate _ _ _ _ _ promotion =>
      cases promotion with
      | none => rfl
      | some promotion => rfl

theorem ratingsFor_applyChange {id : TaskId} {status : Status} {change : StatusChange}
    (fits : ledger.lastNotification.val + change.notices.length ≤ 4294967295) :
    (ledger.applyChange id status now change fits).ratingsFor account =
      ledger.ratingsFor account := by
  rw [ratingsFor, evaluations_applyChange, ratingsFor]

theorem ratingsFor_addEvaluation (ledger : Ledger) (account : Account) (evaluation : Evaluation) :
    (ledger.addEvaluation evaluation).ratingsFor account =
      ledger.ratingsFor account ++
        if evaluation.assignee = some account then [evaluation.rating] else [] := by
  by_cases assigned : evaluation.assignee = some account
  · simp [ratingsFor, addEvaluation, assigned]
  · simp [ratingsFor, addEvaluation, assigned]

theorem reputation_congr (same : after.reputations = ledger.reputations) :
    after.reputation account = ledger.reputation account := by
  rw [reputation, reputation, same]

/-- A change of status records the merit that there is in it. -/
theorem reputation_storePromotion?_promotion? {task : Task} {status : Status}
    (changes : status ≠ task.status) :
    (ledger.storePromotion? (StatusChange.promotion? ledger task status now)).reputation account =
      (task.merit? account (some status) now).toList.foldl (Merit.record ledger.rules)
        (ledger.reputation account) := by
  have different : some status ≠ some task.status := fun same => changes (Option.some.inj same)
  cases assigned : task.assignee with
  | none => simp [StatusChange.promotion?, Task.merit?, assigned, storePromotion?]
  | some worker =>
      by_cases same : account = worker
      · subst same
        cases status
        all_goals
          simp [StatusChange.promotion?, Task.merit?, assigned, different, storePromotion?,
            reputation_storePromotion, Merit.record]
      · have other : some worker ≠ some account := fun equal => same (Option.some.inj equal).symm
        cases status
        all_goals
          simp [StatusChange.promotion?, Task.merit?, assigned, other, storePromotion?,
            reputation_storePromotion, same]

theorem reputation_applyChange {actor : Account} {id : TaskId} {task : Task} {status : Status}
    (changes : status ≠ task.status)
    (fits : ledger.lastNotification.val +
      (StatusChange.plan ledger actor task status now).notices.length ≤ 4294967295) :
    (ledger.applyChange id status now (StatusChange.plan ledger actor task status now)
        fits).reputation account =
      (task.merit? account (some status) now).toList.foldl (Merit.record ledger.rules)
        (ledger.reputation account) := by
  rw [← reputation_storePromotion?_promotion? changes]
  apply reputation_congr
  rw [applyChange_eq]
  rfl

/-- A rating is recorded for the assignee of the task. -/
theorem reputation_storePromotion?_ratingPromotion? {task : Task} {rating : Word8} :
    (ledger.storePromotion?
        (Transaction.ratingPromotion? ledger task rating now)).reputation account =
      (if task.assignee = some account then [Merit.rating rating now] else []).foldl
        (Merit.record ledger.rules) (ledger.reputation account) := by
  cases assigned : task.assignee with
  | none => simp [Transaction.ratingPromotion?, assigned, storePromotion?]
  | some worker =>
      by_cases same : account = worker
      · subst same
        simp [Transaction.ratingPromotion?, assigned, storePromotion?,
          reputation_storePromotion, Merit.record]
      · have other : worker ≠ account := fun equal => same equal.symm
        simp [Transaction.ratingPromotion?, assigned, storePromotion?,
          reputation_storePromotion, same, other]

end Ledger

namespace Command

variable {now : Instant} {ledger : Ledger} {account : Account}

theorem ratingOf?_evaluate {signer : Account} {id : TaskId} {rating : Word8} {comment : String}
    {task : Task} (found : ledger.task? id = some task)
    (isAccepted : (evaluate signer id rating comment).isAccepted now ledger = true) :
    (evaluate signer id rating comment).ratingOf? now ledger account =
      if task.assignee = some account then some rating else none := by
  simp only [ratingOf?, isAccepted, found, Option.bind_some, true_and]

theorem ratingOf?_of_run_eq_error {command : Command} {refusal : Refusal} {after : Ledger}
    (refused : command.run now ledger = (.error refusal, after)) :
    command.ratingOf? now ledger account = none := by
  have unaccepted := isAccepted_of_run_eq_error refused
  cases command with
  | evaluate signer task rating comment => simp [ratingOf?, unaccepted]
  | create | assign | changeStatus | vote | markRead => rfl

theorem evaluate_of_ratingOf?_eq_some {command : Command} {rating : Word8}
    (given : command.ratingOf? now ledger account = some rating) :
    ∃ signer task comment, command = evaluate signer task rating comment ∧
      (ledger.task? task).bind Task.assignee = some account := by
  cases command with
  | evaluate signer task stated comment =>
      rw [ratingOf?] at given
      split at given
      · next both =>
        cases given
        exact ⟨signer, task, comment, rfl, both.2⟩
      · cases given
  | create | assign | changeStatus | vote | markRead => cases given

end Command

namespace Occasion

variable {now : Instant} {ledger after : Ledger} {command : Command}
variable {receipt : Receipt (Option TaskId)} {account : Account}

theorem after_of_accepted (accepted : Command.Accepted now ledger command receipt after) :
    (call command now).after ledger = after := by
  rw [Occasion.after, Command.run_eq_ok_iff.mpr accepted]

/-- A task keeps its status on an occasion that moves it to no other. -/
theorem status?_after_of_not_moves (numbered : ledger.Numbered)
    (ascending : Ledger.Ascending ledger.tasks) {occasion : Occasion} {task : Task}
    (member : task ∈ ledger.tasks) (still : ∀ status, ¬ occasion.Moves ledger task status) :
    (occasion.after ledger).status? task.id = some task.status := by
  have found := (Ledger.task?_eq_some_iff ascending).mpr ⟨member, rfl⟩
  obtain ⟨later, stored, kept | ⟨_, moves⟩⟩ := status_after numbered found occasion
  · exact (Ledger.status?_of_task?_eq_some stored).trans (congrArg some kept)
  · exact absurd moves (still later.status)

/-- Where no task is moved, nobody has merits in tasks. -/
theorem taskMerits_of_not_moves (numbered : ledger.Numbered)
    (ascending : Ledger.Ascending ledger.tasks) {occasion : Occasion}
    (still : ∀ task status, ¬ occasion.Moves ledger task status) :
    ledger.taskMerits (occasion.after ledger) account now = [] :=
  Ledger.taskMerits_eq_nil fun task member =>
    status?_after_of_not_moves numbered ascending member (still task)

/-- A call that moves one task brings the merit that there is in it. -/
theorem taskMerits_of_moved (numbered : ledger.Numbered)
    (ascending : Ledger.Ascending ledger.tasks) {occasion : Occasion} {id : TaskId} {task : Task}
    {status : Status} (found : ledger.task? id = some task)
    (only : ∀ other status, occasion.Moves ledger other status → other.id = id)
    (moved : (occasion.after ledger).status? id = some status) :
    ledger.taskMerits (occasion.after ledger) account now =
      (task.merit? account (some status) now).toList := by
  obtain ⟨member, rfl⟩ := (Ledger.task?_eq_some_iff ascending).mp found
  rw [← moved]
  apply Ledger.taskMerits_eq_toList ascending member
  intro other isOther different
  exact status?_after_of_not_moves numbered ascending isOther fun status moves =>
    different (only other status moves)

theorem merits_of_no_rating (noRating : command.ratingOf? now ledger account = none) :
    (call command now).merits ledger account =
      ledger.taskMerits ((call command now).after ledger) account now := by
  rw [merits, noRating, Option.toList_none, List.map_nil, List.append_nil]

theorem filterMap_rating?_merits :
    ((call command now).merits ledger account).filterMap Merit.rating? =
      (command.ratingOf? now ledger account).toList := by
  have noRatings : (ledger.taskMerits ((call command now).after ledger) account now).filterMap
      Merit.rating? = [] := by
    rw [List.filterMap_eq_nil_iff]
    intro merit member
    exact Ledger.rating?_of_mem_taskMerits member
  rw [merits, List.filterMap_append, noRatings, List.nil_append]
  cases command.ratingOf? now ledger account with
  | none => rfl
  | some rating => rfl

/-- An accepted rating of the work of an account is stored behind the earlier ones. -/
theorem ratingsFor_of_accepted
    (accepted : Command.Accepted now ledger command receipt after) (account : Account) :
    after.ratingsFor account =
      ledger.ratingsFor account ++ (command.ratingOf? now ledger account).toList := by
  have isAccepted := accepted.isAccepted
  cases accepted with
  | create | assign | ballot | markRead => exact (List.append_nil _).symm
  | changeStatus online found byParty allowed fits =>
      rw [Ledger.read_ite_clearBallots _ _ _ (fun reached => reached.ratingsFor account) rfl,
        Ledger.ratingsFor_applyChange fits]
      exact (List.append_nil _).symm
  | verdict online found pending notCreator notAssignee firstVote full counted fits =>
      rw [← Ledger.ratingsFor_applyChange fits]
      exact (List.append_nil _).symm
  | @evaluate signer id rating comment task promotion inRange online found completed notAssignee
      firstRating earned fits =>
      have added := (ledger.storeNotices _ now fits).ratingsFor_addEvaluation account
        { task := id
          assignee := task.assignee
          evaluator := signer
          rating
          comment
          evaluatedAt := now }
      rw [Command.ratingOf?_evaluate found isAccepted, apply_ite Option.toList]
      cases promotion with
      | none => exact added
      | some promotion => exact added

/-- The reputation after an accepted call is the earlier one with the merits recorded. -/
theorem reputation_of_accepted (numbered : ledger.Numbered)
    (ascending : Ledger.Ascending ledger.tasks)
    (accepted : Command.Accepted now ledger command receipt after) (account : Account) :
    after.reputation account =
      ((call command now).merits ledger account).foldl (Merit.record ledger.rules)
        (ledger.reputation account) := by
  have reached := after_of_accepted accepted
  have isAccepted := accepted.isAccepted
  -- Only a change of status, a verdict and a rating bring merits, each in one task.
  cases accepted with
  | create | assign | markRead =>
      rw [merits_of_no_rating rfl, taskMerits_of_not_moves numbered ascending
        fun _ _ moves => by cases moves]
      rfl
  | @changeStatus signer id status task online found byParty allowed fits =>
      have moved : ((call (.changeStatus signer id status) now).after ledger).status? id =
          some status := by
        rw [reached, Ledger.read_ite_clearBallots _ _ _ (fun reached => reached.status? id) rfl]
        exact ledger.status?_applyChange id status now _ fits found
      rw [merits_of_no_rating rfl,
        taskMerits_of_moved numbered ascending found (fun _ _ moves => by cases moves; rfl) moved,
        ← Ledger.reputation_applyChange (Status.ne_of_allows allowed) fits]
      exact Ledger.read_ite_clearBallots _ _ _ (fun reached => reached.reputation account) rfl
  | @ballot signer id approve task online found pending notCreator notAssignee firstVote short =>
      have still (other : Task) (status : Status) :
          ¬ (call (.vote signer id approve) now).Moves ledger other status := by
        intro moves
        cases moves with
        | byVerdict pending notCreator notAssignee decides =>
            exact absurd short (Nat.not_lt.mpr decides)
      rw [merits_of_no_rating rfl, taskMerits_of_not_moves numbered ascending still]
      rfl
  | @verdict signer id approve task outcome online found pending notCreator notAssignee firstVote
      full counted fits =>
      have moved : ((call (.vote signer id approve) now).after ledger).status? id =
          some outcome := by
        rw [reached]
        exact ledger.status?_applyChange id outcome now _ fits found
      have changes : outcome ≠ task.status := by
        rw [counted, pending]
        exact Status.ne_of_allows (Status.allows_iff.mpr (Status.verdict_mem_next _))
      rw [merits_of_no_rating rfl,
        taskMerits_of_moved numbered ascending found (fun _ _ moves => by cases moves; rfl) moved,
        ← Ledger.reputation_applyChange changes fits]
      rfl
  | @evaluate signer id rating comment task promotion inRange online found completed notAssignee
      firstRating earned fits =>
      have merit : (call (.evaluate signer id rating comment) now).merits ledger account =
          if task.assignee = some account then [.rating rating now] else [] := by
        rw [merits, Command.ratingOf?_evaluate found isAccepted,
          taskMerits_of_not_moves numbered ascending (fun _ _ moves => by cases moves),
          List.nil_append]
        split
        · rfl
        · rfl
      rw [merit, ← Ledger.reputation_storePromotion?_ratingPromotion?, ← earned]
      cases promotion with
      | none => rfl
      | some promotion => rfl

/-- On every occasion the merits that it brings are recorded, and nothing else. -/
theorem reputation_after (numbered : ledger.Numbered)
    (ascending : Ledger.Ascending ledger.tasks) (occasion : Occasion) (account : Account) :
    (occasion.after ledger).reputation account =
      (occasion.merits ledger account).foldl (Merit.record ledger.rules)
        (ledger.reputation account) := by
  cases occasion with
  | connection offline => rfl
  | call command now =>
      rcases ran : command.run now ledger with ⟨refusal | receipt, reached⟩
      · have unchanged : (call command now).after ledger = ledger := by
          rw [Occasion.after, ran, Command.ledger_eq_of_run_eq_error ran]
        have kept (task : Task) (member : task ∈ ledger.tasks) :
            ledger.status? task.id = some task.status :=
          Ledger.status?_of_task?_eq_some ((Ledger.task?_eq_some_iff ascending).mpr ⟨member, rfl⟩)
        rw [merits_of_no_rating (Command.ratingOf?_of_run_eq_error ran), unchanged,
          Ledger.taskMerits_eq_nil kept]
        rfl
      · have accepted := Command.run_eq_ok_iff.mp ran
        rw [after_of_accepted accepted]
        exact reputation_of_accepted numbered ascending accepted account

/-- The stored ratings grow by those among the merits. -/
theorem ratingsFor_after (occasion : Occasion) (account : Account) :
    (occasion.after ledger).ratingsFor account =
      ledger.ratingsFor account ++ (occasion.merits ledger account).filterMap Merit.rating? := by
  cases occasion with
  | connection offline => exact (List.append_nil _).symm
  | call command now =>
      rw [filterMap_rating?_merits]
      rcases ran : command.run now ledger with ⟨refusal | receipt, reached⟩
      · rw [Command.ratingOf?_of_run_eq_error ran, Occasion.after, ran,
          Command.ledger_eq_of_run_eq_error ran]
        exact (List.append_nil _).symm
      · have accepted := Command.run_eq_ok_iff.mp ran
        rw [after_of_accepted accepted]
        exact ratingsFor_of_accepted accepted account

/-- There are merits of an account only where it is assigned to a task that is completed,
cancelled or rated. -/
theorem exists_of_mem_merits {merit : Merit} {occasion : Occasion}
    (member : merit ∈ occasion.merits ledger account) :
    ∃ task ∈ ledger.tasks, task.assignee = some account ∧
      ((∃ status, status ≠ task.status ∧ (status = .completed ∨ status = .cancelled) ∧
          (occasion.after ledger).status? task.id = some status) ∨
        ∃ signer rating comment now,
          occasion = .call (.evaluate signer task.id rating comment) now) := by
  cases occasion with
  | connection offline => cases member
  | call command now =>
      rcases List.mem_append.mp member with inTask | inRating
      · obtain ⟨task, isTask, gives⟩ := List.mem_filterMap.mp inTask
        obtain ⟨assigned, _, ended⟩ := Task.of_merit?_eq_some gives
        exact ⟨task, isTask, assigned, .inl ended⟩
      · obtain ⟨rating, given, _⟩ := List.mem_map.mp inRating
        obtain ⟨signer, id, comment, rfl, rated⟩ :=
          Command.evaluate_of_ratingOf?_eq_some (Option.mem_toList.mp given)
        obtain ⟨task, found, assigned⟩ := Option.bind_eq_some_iff.mp rated
        have sameId := Ledger.id_of_task?_eq_some found
        subst sameId
        exact ⟨task, List.mem_of_find?_eq_some found, assigned,
          .inr ⟨signer, rating, comment, now, rfl⟩⟩

end Occasion

namespace History

theorem rules_ledger (history : History) : history.ledger.rules = history.rules := by
  induction history with
  | start rules snapshot =>
      rw [ledger, Ledger.ofSnapshot_eq]
      rfl
  | next earlier occasion ih =>
      have outcome := occasion.outcome earlier.ledger
      rw [ledger, rules, ← ih]
      generalize occasion.published earlier.ledger = events,
        occasion.after earlier.ledger = reached at outcome ⊢
      cases outcome with
      | refused => rfl
      | accepted call => exact Ledger.rules_of_accepted call
      | connection => rfl

theorem reputation_eq_foldl_merits (history : History) (account : Account) :
    history.ledger.reputation account =
      (history.merits account).foldl (Merit.record history.rules) .initial := by
  induction history with
  | start rules snapshot =>
      rw [ledger, Ledger.ofSnapshot_eq]
      rfl
  | next earlier occasion ih =>
      rw [ledger, Occasion.reputation_after earlier.numbered earlier.ascending, ih, rules_ledger,
        merits, List.foldl_append, rules]

/-- The ratings among the merits are those that are stored. -/
theorem filterMap_rating?_merits (history : History) (account : Account) :
    (history.merits account).filterMap Merit.rating? = history.ledger.ratingsFor account := by
  induction history with
  | start rules snapshot =>
      rw [ledger, Ledger.ofSnapshot_eq]
      rfl
  | next earlier occasion ih =>
      rw [merits, List.filterMap_append, ih, ledger, Occasion.ratingsFor_after]

/-- The reputation of an account is the record of its merits in order, from the initial
one on.  It changes only when a task to which the account is assigned is completed,
cancelled or rated.  Its count and its sum of ratings are those of the stored
evaluations, up to the greatest number. -/
theorem reputation_records_merits (history : History) (account : Account) :
    history.ledger.reputationOf account =
      (if history.ledger.offline then .error .disconnected
      else .ok ((history.merits account).foldl (Merit.record history.rules) .initial)) ∧
    (∀ occasion,
      (history.next occasion).ledger.reputation account ≠ history.ledger.reputation account →
        ∃ task ∈ history.ledger.tasks, task.assignee = some account ∧
          ((∃ status, status ≠ task.status ∧ (status = .completed ∨ status = .cancelled) ∧
              (history.next occasion).ledger.status? task.id = some status) ∨
            ∃ signer rating comment now,
              occasion = .call (.evaluate signer task.id rating comment) now)) ∧
    (history.ledger.reputation account).totalRatings.val =
      min (history.ledger.ratingsFor account).length 4294967295 ∧
    (history.ledger.reputation account).ratingSum.val =
      min ((history.ledger.ratingsFor account).map Bounded.val).sum 4294967295 := by
  have recorded := history.reputation_eq_foldl_merits account
  have ratings := history.filterMap_rating?_merits account
  refine ⟨?_, ?_, ?_, ?_⟩
  · rw [Ledger.reputationOf, Ledger.checkOnline, ← recorded]
    cases history.ledger.offline with
    | false => rfl
    | true => rfl
  · intro occasion changed
    rw [ledger, Occasion.reputation_after history.numbered history.ascending] at changed
    cases brought : occasion.merits history.ledger account with
    | nil =>
        rw [brought] at changed
        exact absurd rfl changed
    | cons merit rest =>
        have member : merit ∈ occasion.merits history.ledger account := by
          rw [brought]
          exact List.mem_cons_self
        exact Occasion.exists_of_mem_merits member
  · have counted := Merit.totalRatings_foldl_record history.rules (history.merits account) .initial
    rw [← recorded, ratings] at counted
    rw [counted]
    congr 1
    exact Nat.zero_add _
  · have added := Merit.ratingSum_foldl_record history.rules (history.merits account) .initial
    rw [← recorded, ratings] at added
    rw [added]
    congr 1
    exact Nat.zero_add _

/-- Bob is assigned to a task that awaits verification and to one in progress.  Two of
three votes complete the first, carol rates it with four, and alice cancels the second. -/
def completedAndCancelled : History :=
  let first := Task.fresh ⟨1, Nat.one_pos⟩ "Review" ⟨"alice"⟩ .epoch
  let second := Task.fresh ⟨2, Nat.two_pos⟩ "Release" ⟨"alice"⟩ .epoch
  (start .standard
      [{ first with assignee := some ⟨"bob"⟩, status := .pendingVerification },
        { second with assignee := some ⟨"bob"⟩, status := .inProgress }]).extend
    [.call (.vote ⟨"carol"⟩ first.id true) .epoch, .call (.vote ⟨"dave"⟩ first.id false) .epoch,
      .call (.vote ⟨"erin"⟩ first.id true) .epoch,
      .call (.evaluate ⟨"carol"⟩ first.id 4 "") .epoch,
      .call (.changeStatus ⟨"alice"⟩ second.id .cancelled) .epoch]

/-- Bob's reputation records a completion, a rating and a cancellation, with one rating in
the sum of four; alice's is the initial one. -/
theorem reputation_records_merits_completedAndCancelled :
    let merits : List Merit :=
      [.completion .easiest .epoch, .rating 4 .epoch, .cancellation .epoch]
    completedAndCancelled.ledger.reputationOf ⟨"bob"⟩ =
        .ok (merits.foldl (Merit.record .standard) .initial) ∧
      (completedAndCancelled.ledger.reputation ⟨"bob"⟩).totalRatings.val = 1 ∧
      (completedAndCancelled.ledger.reputation ⟨"bob"⟩).ratingSum.val = 4 ∧
      completedAndCancelled.ledger.reputationOf ⟨"alice"⟩ = .ok .initial := by
  intro merits
  obtain ⟨recorded, _, counted, added⟩ :=
    completedAndCancelled.reputation_records_merits ⟨"bob"⟩
  obtain ⟨unchanged, _⟩ := completedAndCancelled.reputation_records_merits ⟨"alice"⟩
  have ofBob : completedAndCancelled.merits ⟨"bob"⟩ = merits := rfl
  have ofAlice : completedAndCancelled.merits ⟨"alice"⟩ = [] := rfl
  rw [ofBob] at recorded
  rw [ofAlice] at unchanged
  exact ⟨recorded, counted, added, unchanged⟩

end History

end TaskBoard
