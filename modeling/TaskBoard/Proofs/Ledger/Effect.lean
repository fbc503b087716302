import TaskBoard.Proofs.Ledger.History

/-!
# Effects on one task

Most properties of a history follow one task and the votes on it.  `Effect` lists
what an occasion can do to them: nothing, create the task, assign it, move it to
another status, or vote on it with or without a decision.
-/

namespace TaskBoard

namespace Command

/-- Whether the ledger accepts the call. -/
def isAccepted (command : Command) (now : Instant) (ledger : Ledger) : Bool :=
  (command.run now ledger).1.isOk

theorem Accepted.isAccepted {command : Command} {now : Instant} {ledger after : Ledger}
    {receipt : Receipt (Option TaskId)} (accepted : Accepted now ledger command receipt after) :
    command.isAccepted now ledger = true := by
  rw [Command.isAccepted, run_eq_ok_iff.mpr accepted]
  rfl

theorem isAccepted_of_run_eq_error {command : Command} {now : Instant} {ledger after : Ledger}
    {refusal : Refusal} (refused : command.run now ledger = (.error refusal, after)) :
    command.isAccepted now ledger = false := by
  rw [isAccepted, refused]
  rfl

/-- Only an accepted call leaves another ledger. -/
theorem isAccepted_of_after_ne {command : Command} {now : Instant} {ledger : Ledger}
    (changed : (command.run now ledger).2 ≠ ledger) : command.isAccepted now ledger = true := by
  rw [isAccepted]
  rcases ran : command.run now ledger with ⟨refusal | receipt, after⟩
  · rw [ran, ledger_eq_of_run_eq_error ran] at changed
    exact absurd rfl changed
  · rfl

end Command

namespace Occasion

/-- The vote on a task that is accepted on the occasion. -/
def vote? (occasion : Occasion) (ledger : Ledger) (id : TaskId) : Option Ballot :=
  match occasion with
  | call (.vote signer task approve) now =>
      if task = id ∧ (Command.vote signer task approve).isAccepted now ledger then
        some ⟨id, signer, approve⟩
      else none
  | _ => none

/-- The account to which a task is assigned on the occasion. -/
def assignee? (occasion : Occasion) (ledger : Ledger) (id : TaskId) : Option Account :=
  match occasion with
  | call (.assign signer task assignee) now =>
      if task = id ∧ (Command.assign signer task assignee).isAccepted now ledger then
        some assignee
      else none
  | _ => none

theorem vote?_of_isAccepted {signer : Account} {id : TaskId} {approve : Bool} {now : Instant}
    {ledger : Ledger} (accepted : (Command.vote signer id approve).isAccepted now ledger = true) :
    (call (.vote signer id approve) now).vote? ledger id = some ⟨id, signer, approve⟩ :=
  if_pos ⟨rfl, accepted⟩

theorem assignee?_of_isAccepted {signer assignee : Account} {id : TaskId} {now : Instant}
    {ledger : Ledger}
    (accepted : (Command.assign signer id assignee).isAccepted now ledger = true) :
    (call (.assign signer id assignee) now).assignee? ledger id = some assignee :=
  if_pos ⟨rfl, accepted⟩

/-- What an occasion can do to a task and to the votes on it. -/
inductive Effect (ledger : Ledger) (id : TaskId) : Occasion → Ledger → Prop where
  | untouched {occasion : Occasion} {after : Ledger}
      (sameTask : after.task? id = ledger.task? id)
      (sameBallots : after.ballotsOn id = ledger.ballotsOn id)
      (noVote : occasion.vote? ledger id = none)
      (noAssignee : occasion.assignee? ledger id = none) :
      Effect ledger id occasion after
  | created {signer : Account} {draft : Draft} {now : Instant} {after : Ledger}
      (fresh : ledger.task? id = none)
      (stored : after.task? id = some (draft.toTask id signer now))
      (sameBallots : after.ballotsOn id = ledger.ballotsOn id) :
      Effect ledger id (.call (.create signer draft) now) after
  | assigned {signer assignee : Account} {now : Instant} {task : Task} {after : Ledger}
      (found : ledger.task? id = some task)
      (unassigned : task.assignee = none)
      (stored : after.task? id = some (Task.touch { task with assignee := some assignee } now))
      (sameBallots : after.ballotsOn id = ledger.ballotsOn id)
      (accepted : (Command.assign signer id assignee).isAccepted now ledger = true) :
      Effect ledger id (.call (.assign signer id assignee) now) after
  | moved {signer : Account} {status : Status} {now : Instant} {task : Task} {after : Ledger}
      (found : ledger.task? id = some task)
      (byParty : task.creator = signer ∨ task.assignee = some signer)
      (allowed : task.status.allows status = true)
      (stored : after.task? id = some (Task.touch { task with status } now))
      (ballots : after.ballotsOn id =
        if status = .pendingVerification then [] else ledger.ballotsOn id) :
      Effect ledger id (.call (.changeStatus signer id status) now) after
  | voted {signer : Account} {approve : Bool} {now : Instant} {task : Task} {after : Ledger}
      (found : ledger.task? id = some task)
      (pending : task.status = .pendingVerification)
      (notCreator : task.creator ≠ signer)
      (notAssignee : task.assignee ≠ some signer)
      (firstVote : ∀ ballot ∈ ledger.ballotsOn id, ballot.voter ≠ signer)
      (short : (ledger.ballotsOn id).length + 1 < Ledger.quorum)
      (sameTask : after.task? id = ledger.task? id)
      (ballots : after.ballotsOn id = ledger.ballotsOn id ++ [⟨id, signer, approve⟩])
      (accepted : (Command.vote signer id approve).isAccepted now ledger = true) :
      Effect ledger id (.call (.vote signer id approve) now) after
  | decided {signer : Account} {approve : Bool} {now : Instant} {task : Task} {after : Ledger}
      (found : ledger.task? id = some task)
      (pending : task.status = .pendingVerification)
      (notCreator : task.creator ≠ signer)
      (notAssignee : task.assignee ≠ some signer)
      (firstVote : ∀ ballot ∈ ledger.ballotsOn id, ballot.voter ≠ signer)
      (reached : Ledger.quorum ≤ (ledger.ballotsOn id).length + 1)
      (stored : after.task? id = some (Task.touch
        { task with
          status := Transaction.verdict (ledger.ballotsOn id ++ [⟨id, signer, approve⟩]) } now))
      (ballots : after.ballotsOn id = [])
      (accepted : (Command.vote signer id approve).isAccepted now ledger = true) :
      Effect ledger id (.call (.vote signer id approve) now) after

theorem effect_of_accepted {now : Instant} {ledger after : Ledger} {command : Command}
    {receipt : Receipt (Option TaskId)} (numbered : ledger.Numbered)
    (call : Command.Accepted now ledger command receipt after) (id : TaskId) :
    Effect ledger id (.call command now) after := by
  have accepted := call.isAccepted
  -- A call about another task leaves this one and its votes as they are.
  cases call with
  | @create signer draft titled online fits =>
      by_cases target : ledger.nextTask fits = id
      · subst target
        refine .created (numbered.task?_nextTask fits) ?_ rfl
        rw [Ledger.task?_addNew]
        exact if_pos rfl
      · refine .untouched ?_ rfl rfl rfl
        rw [Ledger.task?_addNew]
        exact if_neg target
  | @assign signer assignee target task online found byCreator toOther unassigned fits =>
      have stored := Ledger.task?_updateTask
        (ledger.storeNotices [Notice.assignment task assignee] now fits) target id
        (fun task => Task.touch { task with assignee := some assignee } now) fun _ => rfl
      by_cases same : id = target
      · subst same
        rw [if_pos rfl] at stored
        refine .assigned found unassigned (stored.trans ?_) rfl accepted
        exact congrArg (Option.map _) found
      · rw [if_neg same] at stored
        refine .untouched stored rfl rfl ?_
        simp [assignee?, Ne.symm same]
  | @changeStatus signer target status task online found byParty allowed fits =>
      have stored := Ledger.task?_applyChange ledger target status now _ fits id
      rw [← Ledger.task?_ite_clearBallots _ (status = .pendingVerification) target] at stored
      have ballots := Ledger.ballotsOn_ite_clearBallots (ledger.applyChange target status now _ fits)
        (status = .pendingVerification) target id
      rw [Ledger.ballotsOn_applyChange] at ballots
      by_cases same : id = target
      · subst same
        rw [if_pos rfl, found, Option.map_some] at stored
        simp only [and_true] at ballots
        exact .moved found byParty allowed stored ballots
      · rw [if_neg same] at stored
        simp only [same, and_false, ↓reduceIte] at ballots
        exact .untouched stored ballots rfl rfl
  | @ballot signer target approve task online found pending notCreator notAssignee firstVote
      short =>
      have ballots := Ledger.ballotsOn_castBallot ledger ⟨target, signer, approve⟩ id
      by_cases same : target = id
      · subst same
        rw [if_pos rfl] at ballots
        exact .voted found pending notCreator notAssignee firstVote short rfl ballots accepted
      · rw [if_neg same, List.append_nil] at ballots
        refine .untouched rfl ballots ?_ rfl
        simp [vote?, same]
  | @verdict signer target approve task outcome online found pending notCreator notAssignee
      firstVote reached counted fits =>
      have stored := Ledger.task?_applyChange ledger target outcome now _ fits id
      by_cases same : id = target
      · subst same
        rw [if_pos rfl, found, Option.map_some] at stored
        refine .decided found pending notCreator notAssignee firstVote reached ?_ ?_ accepted
        · rw [Ledger.task?_clearBallots, stored, counted]
        · rw [Ledger.ballotsOn_clearBallots, if_pos rfl]
      · rw [if_neg same] at stored
        refine .untouched ?_ ?_ ?_ rfl
        · rw [Ledger.task?_clearBallots, stored]
        · rw [Ledger.ballotsOn_clearBallots, if_neg same, Ledger.ballotsOn_applyChange]
        · simp [vote?, Ne.symm same]
  | @evaluate signer target rating comment task promotion inRange online found completed
      notAssignee firstRating earned fits =>
      cases promotion with
      | none => exact .untouched rfl rfl rfl rfl
      | some promotion => exact .untouched rfl rfl rfl rfl
  | markRead => exact .untouched rfl rfl rfl rfl

/-- A refused call has no effect. -/
theorem effect_of_refused {now : Instant} {ledger : Ledger} {command : Command}
    {refusal : Refusal} (refused : command.run now ledger = (.error refusal, ledger))
    (id : TaskId) : Effect ledger id (.call command now) ledger := by
  have unaccepted := Command.isAccepted_of_run_eq_error refused
  cases command with
  | assign signer target assignee => exact .untouched rfl rfl rfl (by simp [assignee?, unaccepted])
  | vote signer target approve => exact .untouched rfl rfl (by simp [vote?, unaccepted]) rfl
  | create | changeStatus | evaluate | markRead => exact .untouched rfl rfl rfl rfl

/-- Every occasion has one of the effects on every task. -/
theorem effect (occasion : Occasion) {ledger : Ledger} (numbered : ledger.Numbered)
    (id : TaskId) : Effect ledger id occasion (occasion.after ledger) := by
  have outcome := occasion.outcome ledger
  generalize occasion.published ledger = events, occasion.after ledger = reached at outcome ⊢
  cases outcome with
  | refused refused => exact effect_of_refused refused id
  | accepted call => exact effect_of_accepted numbered call id
  | connection => exact .untouched rfl rfl rfl rfl

/-- Nobody comes to be assigned to a task on an occasion but the account to which it is
assigned on it, and only if nobody was assigned before. -/
theorem assignee?_after (occasion : Occasion) {ledger : Ledger} (numbered : ledger.Numbered)
    (id : TaskId) :
    ((occasion.after ledger).assignee? id = ledger.assignee? id ∧
        occasion.assignee? ledger id = none) ∨
      ledger.assignee? id = none ∧ ∃ account,
        occasion.assignee? ledger id = some account ∧
        (occasion.after ledger).assignee? id = some account := by
  have effect := occasion.effect numbered id
  generalize occasion.after ledger = reached at effect ⊢
  cases effect with
  | untouched sameTask sameBallots noVote noAssignee =>
      exact .inl ⟨Ledger.assignee?_congr sameTask, noAssignee⟩
  | created fresh stored =>
      refine .inl ⟨?_, rfl⟩
      rw [Ledger.assignee?_of_task?_eq_some stored, Ledger.assignee?, fresh]
      rfl
  | assigned found unassigned stored sameBallots accepted =>
      refine .inr ⟨?_, _, assignee?_of_isAccepted accepted, ?_⟩
      · rw [Ledger.assignee?_of_task?_eq_some found, unassigned]
      · rw [Ledger.assignee?_of_task?_eq_some stored]
        rfl
  | moved found byParty allowed stored =>
      refine .inl ⟨?_, rfl⟩
      rw [Ledger.assignee?_of_task?_eq_some found, Ledger.assignee?_of_task?_eq_some stored]
      rfl
  | voted found awaiting notCreator notAssignee firstVote short sameTask =>
      exact .inl ⟨Ledger.assignee?_congr sameTask, rfl⟩
  | decided found awaiting notCreator notAssignee firstVote full stored =>
      refine .inl ⟨?_, rfl⟩
      rw [Ledger.assignee?_of_task?_eq_some found, Ledger.assignee?_of_task?_eq_some stored]
      rfl

end Occasion

end TaskBoard
