import TaskBoard.Proofs.Ledger.Alteration

/-!
# Changes of status

A task comes to another status only along the table of statuses, and only when one of
its parties says so or the deciding vote of another account does.  A verdict does not
consult the table, but both verdicts are on it.
-/

namespace TaskBoard

namespace Status

theorem allows_iff {status target : Status} :
    status.allows target = true ↔ target ∈ status.next :=
  List.contains_iff_mem

theorem ne_of_allows {status target : Status} (allowed : status.allows target = true) :
    target ≠ status := by
  rintro rfl
  cases target
  all_goals exact absurd allowed (by decide)

/-- Both verdicts on a task that awaits verification are allowed. -/
theorem verdict_mem_next (ballots : List Ballot) :
    Transaction.verdict ballots ∈ pendingVerification.next := by
  rw [Transaction.verdict]
  split
  · decide
  · decide

end Status

namespace Occasion

/-- The occasions on which a task may come to another status: a party of the task asks
for it, or an account that is no party casts the vote that decides a verification. -/
inductive Moves (ledger : Ledger) (task : Task) (status : Status) : Occasion → Prop where
  | byParty {signer : Account} {now : Instant}
      (party : task.creator = signer ∨ task.assignee = some signer) :
      Moves ledger task status (.call (.changeStatus signer task.id status) now)
  | byVerdict {signer : Account} {approve : Bool} {now : Instant}
      (pending : task.status = .pendingVerification)
      (notCreator : task.creator ≠ signer)
      (notAssignee : task.assignee ≠ some signer)
      (decides : Ledger.quorum ≤ (ledger.ballotsOn task.id).length + 1) :
      Moves ledger task status (.call (.vote signer task.id approve) now)

/-- An alteration keeps the status or moves the task along the table. -/
theorem Alters.moves {ledger : Ledger} {task later : Task} {occasion : Occasion}
    (alters : occasion.Alters ledger task later) :
    later.status = task.status ∨
      later.status ∈ task.status.next ∧ occasion.Moves ledger task later.status := by
  cases alters with
  | assigned => exact .inl rfl
  | moved byParty allowed => exact .inr ⟨Status.allows_iff.mp allowed, .byParty byParty⟩
  | decided pending notCreator notAssignee reached =>
      refine .inr ⟨?_, .byVerdict pending notCreator notAssignee reached⟩
      rw [pending]
      exact Status.verdict_mem_next _

theorem status_after {ledger : Ledger} {id : TaskId} (numbered : ledger.Numbered) {task : Task}
    (found : ledger.task? id = some task) (occasion : Occasion) :
    ∃ later, (occasion.after ledger).task? id = some later ∧
      (later.status = task.status ∨
        later.status ∈ task.status.next ∧ occasion.Moves ledger task later.status) := by
  obtain ⟨later, stored, rfl | alters⟩ := task_after numbered found occasion
  · exact ⟨later, stored, .inl rfl⟩
  · exact ⟨later, stored, alters.moves⟩

end Occasion

namespace History

/-- A status without a next one stays, whatever happens. -/
theorem status?_extend_of_final {history : History} {id : TaskId} {status : Status}
    (final : status.isFinal = true) (reached : history.ledger.status? id = some status)
    (occasions : List Occasion) :
    (history.extend occasions).ledger.status? id = some status := by
  refine extend_keeps (fun later => later.ledger.status? id = some status) reached ?_ occasions
  intro earlier occasion before
  obtain ⟨task, found, rfl⟩ := Option.map_eq_some_iff.mp before
  obtain ⟨later, stored, kept | ⟨allowed, _⟩⟩ :=
    Occasion.status_after earlier.numbered found occasion
  · exact (Ledger.status?_of_task?_eq_some stored).trans (congrArg some kept)
  · rw [Status.isFinal_iff_next_eq_nil.mp final] at allowed
    cases allowed

/-- On every occasion a task stays and keeps its status, or comes to one that the table
allows and by an account that may do so; a completed or cancelled task never comes to
another status. -/
theorem status_changes_lawful (history : History) (id : TaskId) (task : Task)
    (found : history.ledger.task? id = some task) :
    (∀ occasion, ∃ later, (history.next occasion).ledger.task? id = some later ∧
      (later.status = task.status ∨
        later.status ∈ task.status.next ∧
          occasion.Moves history.ledger task later.status)) ∧
    (task.status = .completed ∨ task.status = .cancelled → ∀ occasions,
      (history.extend occasions).ledger.status? id = some task.status) := by
  refine ⟨Occasion.status_after history.numbered found, fun ended => ?_⟩
  have final : task.status.isFinal = true := by
    rcases ended with completed | cancelled
    · rw [completed]
      rfl
    · rw [cancelled]
      rfl
  exact status?_extend_of_final final (Ledger.status?_of_task?_eq_some found)

/-- A task of alice that awaits verification, with a vote for it and one against it. -/
def evenVotes : History :=
  let task := Task.fresh ⟨1, Nat.one_pos⟩ "Review" ⟨"alice"⟩ .epoch
  (start .standard [{ task with status := .pendingVerification }]).extend
    [.call (.vote ⟨"bob"⟩ task.id true) .epoch, .call (.vote ⟨"carol"⟩ task.id false) .epoch]

/-- Dave's vote completes the task, and nothing changes its status after that. -/
theorem status_changes_lawful_evenVotes :
    let id : TaskId := ⟨1, Nat.one_pos⟩
    let vote : Occasion := .call (.vote ⟨"dave"⟩ id true) .epoch
    ∃ task later, evenVotes.ledger.task? id = some task ∧
      (evenVotes.next vote).ledger.task? id = some later ∧
      later.status = .completed ∧ vote.Moves evenVotes.ledger task .completed ∧
      ∀ occasions,
        ((evenVotes.next vote).extend occasions).ledger.status? id = some .completed := by
  intro id vote
  obtain ⟨later, stored, kept | ⟨_, moves⟩⟩ :=
    (evenVotes.status_changes_lawful id _ rfl).1 vote
  · cases stored
    cases kept
  · cases stored
    have stays := ((evenVotes.next vote).status_changes_lawful id _ rfl).2 (.inl rfl)
    exact ⟨_, _, rfl, rfl, rfl, moves, stays⟩

end History

end TaskBoard
