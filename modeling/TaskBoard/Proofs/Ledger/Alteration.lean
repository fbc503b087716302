import TaskBoard.Proofs.Ledger.Effect

/-!
# Alterations of a task

A task that is there stays.  An occasion alters it in one of three ways: its creator
assigns it, a party changes its status, or the deciding vote of another account does.
A task that is new was created on the occasion.
-/

namespace TaskBoard

namespace Command

/-- The task that a call is about, if it is about one that is there. -/
def target? : Command → Option TaskId
  | create _ _ => none
  | assign _ task _ => some task
  | changeStatus _ task _ => some task
  | vote _ task _ => some task
  | evaluate _ task _ _ => some task
  | markRead _ _ => none

theorem accepted_of_isAccepted {command : Command} {now : Instant} {ledger : Ledger}
    (isAccepted : command.isAccepted now ledger = true) :
    ∃ receipt after, Accepted now ledger command receipt after := by
  rw [Command.isAccepted] at isAccepted
  rcases ran : command.run now ledger with ⟨refusal | receipt, after⟩
  · rw [ran] at isAccepted
    cases isAccepted
  · exact ⟨receipt, after, run_eq_ok_iff.mp ran⟩

/-- Only the creator assigns a task, and to another account. -/
theorem parties_of_assign {signer assignee : Account} {id : TaskId} {now : Instant}
    {ledger : Ledger} {task : Task} (found : ledger.task? id = some task)
    (isAccepted : (assign signer id assignee).isAccepted now ledger = true) :
    signer = task.creator ∧ assignee ≠ task.creator := by
  obtain ⟨receipt, after, accepted⟩ := accepted_of_isAccepted isAccepted
  cases accepted with
  | assign online same byCreator toOther =>
      cases found.symm.trans same
      exact ⟨byCreator.symm, toOther.symm⟩

end Command

namespace Occasion

/-- What an occasion can make of a task. -/
inductive Alters (ledger : Ledger) (task : Task) : Occasion → Task → Prop where
  | assigned {assignee : Account} {now : Instant}
      (unassigned : task.assignee = none)
      (toOther : assignee ≠ task.creator) :
      Alters ledger task (.call (.assign task.creator task.id assignee) now)
        (Task.touch { task with assignee := some assignee } now)
  | moved {signer : Account} {status : Status} {now : Instant}
      (byParty : task.creator = signer ∨ task.assignee = some signer)
      (allowed : task.status.allows status = true) :
      Alters ledger task (.call (.changeStatus signer task.id status) now)
        (Task.touch { task with status } now)
  | decided {signer : Account} {approve : Bool} {now : Instant}
      (pending : task.status = .pendingVerification)
      (notCreator : task.creator ≠ signer)
      (notAssignee : task.assignee ≠ some signer)
      (reached : Ledger.quorum ≤ (ledger.ballotsOn task.id).length + 1) :
      Alters ledger task (.call (.vote signer task.id approve) now)
        (Task.touch
          { task with
            status := Transaction.verdict
              (ledger.ballotsOn task.id ++ [⟨task.id, signer, approve⟩]) } now)

variable {ledger : Ledger} {id : TaskId}

/-- A task stays under its identifier, as it was or altered by the occasion. -/
theorem task_after (numbered : ledger.Numbered) {task : Task}
    (found : ledger.task? id = some task) (occasion : Occasion) :
    ∃ later, (occasion.after ledger).task? id = some later ∧
      (later = task ∨ occasion.Alters ledger task later) := by
  have effect := occasion.effect numbered id
  have sameId := Ledger.id_of_task?_eq_some found
  subst sameId
  generalize occasion.after ledger = reached at effect ⊢
  cases effect with
  | untouched sameTask => exact ⟨task, sameTask.trans found, .inl rfl⟩
  | created fresh =>
      rw [fresh] at found
      cases found
  | assigned same unassigned stored sameBallots accepted =>
      cases found.symm.trans same
      obtain ⟨rfl, toOther⟩ := Command.parties_of_assign found accepted
      exact ⟨_, stored, .inr (.assigned unassigned toOther)⟩
  | moved same byParty allowed stored =>
      cases found.symm.trans same
      exact ⟨_, stored, .inr (.moved byParty allowed)⟩
  | voted same pending notCreator notAssignee firstVote short sameTask =>
      exact ⟨task, sameTask.trans found, .inl rfl⟩
  | decided same pending notCreator notAssignee firstVote reached stored =>
      cases found.symm.trans same
      exact ⟨_, stored, .inr (.decided pending notCreator notAssignee reached)⟩

/-- A task that was not there before was created on the occasion. -/
theorem created_of_new (numbered : ledger.Numbered) {later : Task} {occasion : Occasion}
    (isNew : ledger.task? id = none) (found : (occasion.after ledger).task? id = some later) :
    ∃ signer draft now, occasion = .call (.create signer draft) now ∧
      later = draft.toTask id signer now := by
  have effect := occasion.effect numbered id
  generalize occasion.after ledger = reached at effect found
  cases effect with
  | untouched sameTask =>
      rw [sameTask, isNew] at found
      cases found
  | created fresh stored => exact ⟨_, _, _, rfl, Option.some.inj (found.symm.trans stored)⟩
  | assigned same | moved same | voted same | decided same =>
      rw [isNew] at same
      cases same

end Occasion

end TaskBoard
