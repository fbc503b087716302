import TaskBoard.Proofs.Ledger.Verification

/-!
# Parties among the voters

The creator and the assignee of a task may not vote on it.  The creator of a task
never changes, so no vote of the creator is ever counted.  A task may be assigned
while a round is under way, though, and the votes of the round stay: a vote of the
assignee is counted exactly if the account voted first and was assigned afterwards.
-/

namespace TaskBoard

namespace Occasion

/-- Tasks stay, with their creators and with the accounts that are assigned; another
assignee than before is the account that is assigned on the occasion. -/
theorem parties_after {ledger : Ledger} (numbered : ledger.Numbered) {id : TaskId} {task : Task}
    (found : ledger.task? id = some task) (occasion : Occasion) :
    ∃ later, (occasion.after ledger).task? id = some later ∧
      later.creator = task.creator ∧
      (later.assignee = task.assignee ∨
        task.assignee = none ∧ occasion.assignee? ledger id = later.assignee) := by
  have effect := occasion.effect numbered id
  generalize occasion.after ledger = reached at effect ⊢
  cases effect with
  | untouched sameTask => exact ⟨task, sameTask.trans found, rfl, .inl rfl⟩
  | created fresh =>
      rw [fresh] at found
      cases found
  | assigned same unassigned stored sameBallots accepted =>
      cases found.symm.trans same
      exact ⟨_, stored, rfl, .inr ⟨unassigned, assignee?_of_isAccepted accepted⟩⟩
  | moved same byParty allowed stored =>
      cases found.symm.trans same
      exact ⟨_, stored, rfl, .inl rfl⟩
  | voted same awaiting notCreator notAssignee firstVote short sameTask =>
      exact ⟨task, sameTask.trans found, rfl, .inl rfl⟩
  | decided same awaiting notCreator notAssignee firstVote full stored =>
      cases found.symm.trans same
      exact ⟨_, stored, rfl, .inl rfl⟩

/-- The account that is assigned on an occasion is the assignee after it. -/
theorem assignee_after {ledger : Ledger} (numbered : ledger.Numbered) {id : TaskId}
    {account : Account} {occasion : Occasion}
    (assigned : occasion.assignee? ledger id = some account) :
    ∃ later, (occasion.after ledger).task? id = some later ∧ later.assignee = some account := by
  have effect := occasion.effect numbered id
  generalize occasion.after ledger = reached at effect ⊢
  cases effect with
  | untouched sameTask sameBallots noVote noAssignee =>
      rw [noAssignee] at assigned
      cases assigned
  | assigned found unassigned stored sameBallots accepted =>
      rw [assignee?_of_isAccepted accepted] at assigned
      cases assigned
      exact ⟨_, stored, rfl⟩
  | created | moved | voted | decided => cases assigned

/-- An accepted vote is one of neither party, and nobody is assigned on its occasion. -/
theorem voter_of_vote? {ledger : Ledger} (numbered : ledger.Numbered) {id : TaskId}
    {task : Task} {ballot : Ballot} {occasion : Occasion}
    (found : ledger.task? id = some task)
    (voted : occasion.vote? ledger id = some ballot) :
    task.creator ≠ ballot.voter ∧ task.assignee ≠ some ballot.voter ∧
      occasion.assignee? ledger id = none := by
  have effect := occasion.effect numbered id
  generalize occasion.after ledger = reached at effect
  cases effect with
  | untouched sameTask sameBallots noVote =>
      rw [noVote] at voted
      cases voted
  | voted same awaiting notCreator notAssignee firstVote short sameTask ballots accepted =>
      cases found.symm.trans same
      rw [vote?_of_isAccepted accepted] at voted
      cases voted
      exact ⟨notCreator, notAssignee, rfl⟩
  | decided same awaiting notCreator notAssignee firstVote full stored ballots accepted =>
      cases found.symm.trans same
      rw [vote?_of_isAccepted accepted] at voted
      cases voted
      exact ⟨notCreator, notAssignee, rfl⟩
  | created | assigned | moved => cases voted

end Occasion

namespace History

/-- The account voted in the round of a task and was assigned to the task later in
the same round. -/
def AssignedAfterVoting (id : TaskId) (account : Account) : History → Prop
  | start _ _ => False
  | next earlier occasion =>
      ¬ occasion.Opens earlier.ledger id ∧
        (earlier.AssignedAfterVoting id account ∨
          occasion.assignee? earlier.ledger id = some account ∧
            ∃ ballot ∈ earlier.roundVotes id, ballot.voter = account)

/-- An account that was assigned after voting is the assignee, and its vote is still in
the round. -/
theorem AssignedAfterVoting.assignee {history : History} {id : TaskId} {account : Account}
    (assigned : history.AssignedAfterVoting id account) :
    (∃ task, history.ledger.task? id = some task ∧ task.assignee = some account) ∧
      ∃ ballot ∈ history.roundVotes id, ballot.voter = account := by
  induction history with
  | start rules snapshot => exact assigned.elim
  | next earlier occasion ih =>
      obtain ⟨continues, assigned⟩ := assigned
      rw [roundVotes, Occasion.votesAfter_of_not_opens continues]
      rcases assigned with before | ⟨now, ballot, member, isVoter⟩
      · obtain ⟨⟨task, found, isAssignee⟩, ballot, member, isVoter⟩ := ih before
        obtain ⟨later, stored, _, kept | unassigned⟩ :=
          Occasion.parties_after earlier.numbered found occasion
        · exact ⟨⟨later, stored, kept.trans isAssignee⟩,
            ballot, List.mem_append_left _ member, isVoter⟩
        · rw [isAssignee] at unassigned
          cases unassigned.1
      · exact ⟨Occasion.assignee_after earlier.numbered now,
          ballot, List.mem_append_left _ member, isVoter⟩

/-- In a round no vote is the creator's, and a vote of the assignee's was cast before
the assignment. -/
theorem voter_of_mem_roundVotes {history : History} {id : TaskId} {task : Task}
    (found : history.ledger.task? id = some task)
    (pending : task.status = .pendingVerification) {ballot : Ballot}
    (member : ballot ∈ history.roundVotes id) :
    task.creator ≠ ballot.voter ∧
      (task.assignee = some ballot.voter → history.AssignedAfterVoting id ballot.voter) := by
  induction history generalizing task with
  | start rules snapshot => cases member
  | next earlier occasion ih =>
      by_cases opens : occasion.Opens earlier.ledger id
      · rw [roundVotes, Occasion.votesAfter_of_opens opens] at member
        cases member
      rw [roundVotes, Occasion.votesAfter_of_not_opens opens, List.mem_append] at member
      -- The round goes on, so the task awaited verification before the occasion, too.
      have before : earlier.ledger.status? id = some .pendingVerification := by
        have after := (Ledger.status?_of_task?_eq_some found).trans (congrArg some pending)
        exact Decidable.not_not.mp fun before => opens ⟨before, after⟩
      obtain ⟨former, wasFound, wasPending⟩ := Option.map_eq_some_iff.mp before
      obtain ⟨later, stored, sameCreator, assignee⟩ :=
        Occasion.parties_after earlier.numbered wasFound occasion
      cases found.symm.trans stored
      rw [sameCreator]
      rcases member with isEarlier | isNew
      · obtain ⟨notCreator, whenAssigned⟩ := ih wasFound wasPending isEarlier
        refine ⟨notCreator, fun isAssignee => ⟨opens, ?_⟩⟩
        rcases assignee with kept | ⟨_, assignedNow⟩
        · exact .inl (whenAssigned (kept.symm.trans isAssignee))
        · exact .inr ⟨assignedNow.trans isAssignee, ballot, isEarlier, rfl⟩
      · obtain ⟨notCreator, notAssignee, nobody⟩ :=
          Occasion.voter_of_vote? earlier.numbered wasFound (Option.mem_toList.mp isNew)
        refine ⟨notCreator, fun isAssignee => ?_⟩
        rcases assignee with kept | ⟨_, assignedNow⟩
        · exact absurd (kept.symm.trans isAssignee) notAssignee
        · rw [nobody, isAssignee] at assignedNow
          cases assignedNow

/-- The votes that decide on a task are of other accounts than its creator; one of
them is the assignee's exactly if the assignee was assigned after voting. -/
theorem assignee_counted_iff (history : History) (id : TaskId) (task : Task) (signer : Account)
    (approve : Bool) (now : Instant)
    (found : history.ledger.task? id = some task)
    (accepted : (Command.vote signer id approve).isAccepted now history.ledger = true)
    (full : Ledger.quorum ≤ (history.ledger.ballotsOn id).length + 1) :
    let counted := history.ledger.ballotsOn id ++ [⟨id, signer, approve⟩]
    (history.next (.call (.vote signer id approve) now)).ledger.task? id =
        some (Task.touch { task with status := Transaction.verdict counted } now) ∧
      (∀ ballot ∈ counted, ballot.voter ≠ task.creator) ∧
      ∀ account, (task.assignee = some account ∧ ∃ ballot ∈ counted, ballot.voter = account) ↔
        history.AssignedAfterVoting id account := by
  intro counted
  have effect := (Occasion.call (.vote signer id approve) now).effect history.numbered id
  rw [ledger]
  generalize (Occasion.call (.vote signer id approve) now).after history.ledger = after
    at effect ⊢
  cases effect with
  | untouched sameTask sameBallots noVote =>
      rw [Occasion.vote?_of_isAccepted accepted] at noVote
      cases noVote
  | voted same awaiting notCreator notAssignee firstVote short =>
      exact absurd short (Nat.not_lt.mpr full)
  | decided same awaiting notCreator notAssignee firstVote reached stored =>
      cases found.symm.trans same
      have pending := (Ledger.status?_of_task?_eq_some found).trans (congrArg some awaiting)
      have votes : history.ledger.ballotsOn id = history.roundVotes id :=
        (history.inRound id pending).stored
      refine ⟨stored, ?_, fun account => ⟨?_, ?_⟩⟩
      · intro ballot member
        rcases List.mem_append.mp member with isEarlier | isNew
        · rw [votes] at isEarlier
          exact (voter_of_mem_roundVotes found awaiting isEarlier).1.symm
        · rw [List.mem_singleton.mp isNew]
          exact notCreator.symm
      · rintro ⟨isAssignee, ballot, member, rfl⟩
        rcases List.mem_append.mp member with isEarlier | isNew
        · rw [votes] at isEarlier
          exact (voter_of_mem_roundVotes found awaiting isEarlier).2 isAssignee
        · rw [List.mem_singleton.mp isNew] at isAssignee
          exact absurd isAssignee notAssignee
      · intro assigned
        obtain ⟨⟨other, same, isAssignee⟩, ballot, member, isVoter⟩ := assigned.assignee
        cases found.symm.trans same
        rw [← votes] at member
        exact ⟨isAssignee, ballot, List.mem_append_left _ member, isVoter⟩

/-- Bob votes on a task, is assigned to it, and a second account votes. -/
def assignedVoter : History :=
  let task := Task.fresh ⟨1, Nat.one_pos⟩ "Review" ⟨"alice"⟩ .epoch
  let calls : List Command := [
    .vote ⟨"bob"⟩ task.id true,
    .assign ⟨"alice"⟩ task.id ⟨"bob"⟩,
    .vote ⟨"carol"⟩ task.id true]
  calls.foldl (fun history command => history.next (.call command .epoch))
    (start .standard [{ task with status := .pendingVerification }])

/-- Bob's vote is counted when the third account votes, though bob is the assignee by then:
bob was assigned after voting. -/
theorem assignee_counted_iff_assignedVoter :
    let id : TaskId := ⟨1, Nat.one_pos⟩
    ∃ task, assignedVoter.ledger.task? id = some task ∧
      (Command.vote ⟨"dave"⟩ id false).isAccepted .epoch assignedVoter.ledger = true ∧
      Ledger.quorum ≤ (assignedVoter.ledger.ballotsOn id).length + 1 ∧
      task.assignee = some ⟨"bob"⟩ ∧ assignedVoter.AssignedAfterVoting id ⟨"bob"⟩ := by
  intro id
  have counted := assignedVoter.assignee_counted_iff id _ ⟨"dave"⟩ false .epoch rfl rfl (Nat.le_refl 3)
  exact ⟨_, rfl, rfl, Nat.le_refl 3, rfl,
    (counted.2.2 ⟨"bob"⟩).mp ⟨rfl, ⟨id, ⟨"bob"⟩, true⟩, List.mem_cons_self, rfl⟩⟩

/-- It is not true that only accounts other than the parties are counted: bob's vote
completes the task to which bob is assigned. -/
theorem assignedVoter_counted :
    let id : TaskId := ⟨1, Nat.one_pos⟩
    let vote : Command := .vote ⟨"dave"⟩ id false
    ∃ task, ∃ ballot ∈ assignedVoter.ledger.ballotsOn id,
      assignedVoter.ledger.task? id = some task ∧ task.assignee = some ballot.voter ∧
        vote.isAccepted .epoch assignedVoter.ledger = true ∧
        (assignedVoter.next (.call vote .epoch)).ledger.status? id = some .completed := by
  intro id vote
  exact ⟨_, ⟨id, ⟨"bob"⟩, true⟩, List.mem_cons_self, rfl, rfl, rfl, rfl⟩

end History

end TaskBoard
