import TaskBoard.Proofs.Ledger.Effect

/-!
# Rounds of verification

A round of verification begins when a task comes to await verification and ends
when its status changes, by the deciding vote or by a party.  A party leaves the
votes of its round behind; they are dropped when the next round begins, so that
the votes stored for a task that awaits verification are those of its round.
-/

namespace TaskBoard

namespace Occasion

/-- The occasion begins a round: the task comes to await verification. -/
def Opens (occasion : Occasion) (ledger : Ledger) (id : TaskId) : Prop :=
  ledger.status? id ≠ some .pendingVerification ∧
    (occasion.after ledger).status? id = some .pendingVerification

instance (occasion : Occasion) (ledger : Ledger) (id : TaskId) :
    Decidable (occasion.Opens ledger id) :=
  inferInstanceAs (Decidable (_ ∧ _))

/-- The votes of the round of a task after the occasion: none if a round begins,
else those before it and the vote that is accepted on it. -/
def votesAfter (occasion : Occasion) (ledger : Ledger) (id : TaskId) (votes : List Ballot) :
    List Ballot :=
  if occasion.Opens ledger id then [] else votes ++ (occasion.vote? ledger id).toList

theorem votesAfter_of_opens {occasion : Occasion} {ledger : Ledger} {id : TaskId}
    {votes : List Ballot} (opens : occasion.Opens ledger id) :
    occasion.votesAfter ledger id votes = [] :=
  if_pos opens

theorem votesAfter_of_not_opens {occasion : Occasion} {ledger : Ledger} {id : TaskId}
    {votes : List Ballot} (continues : ¬ occasion.Opens ledger id) :
    occasion.votesAfter ledger id votes = votes ++ (occasion.vote? ledger id).toList :=
  if_neg continues

end Occasion

namespace History

/-- The votes on a task that were accepted since it last came to await
verification, or since the start if it never did. -/
def roundVotes (id : TaskId) : History → List Ballot
  | start _ _ => []
  | next earlier occasion => occasion.votesAfter earlier.ledger id (earlier.roundVotes id)

end History

namespace Transaction

/-- A verdict ends the round. -/
theorem verdict_ne_pendingVerification (ballots : List Ballot) :
    verdict ballots ≠ .pendingVerification := by
  rw [verdict]
  split <;> decide

/-- Two of three votes make a majority. -/
theorem verdict_of_length_eq_quorum {ballots : List Ballot}
    (full : ballots.length = Ledger.quorum) :
    verdict ballots = if 2 ≤ ballots.countP Ballot.approve then .completed else .inProgress := by
  have majority : ballots.length < 2 * ballots.countP Ballot.approve ↔
      2 ≤ ballots.countP Ballot.approve := by
    rw [full, Ledger.quorum]
    omega
  simp only [verdict, majority]

end Transaction

namespace Ledger

/-- The votes are all that are stored for a task in a round that is under way, and
a further vote may still leave the quorum unreached. -/
structure InRound (ledger : Ledger) (id : TaskId) (votes : List Ballot) : Prop where
  stored : ledger.ballotsOn id = votes
  distinct : (votes.map Ballot.voter).Nodup
  short : votes.length < quorum

theorem InRound.of_ballotsOn_eq {ledger after : Ledger} {id : TaskId} {votes : List Ballot}
    (inRound : ledger.InRound id votes)
    (sameBallots : after.ballotsOn id = ledger.ballotsOn id) : after.InRound id votes :=
  ⟨sameBallots.trans inRound.stored, inRound.distinct, inRound.short⟩

theorem inRound_nil {ledger : Ledger} {id : TaskId} (ballots : ledger.ballotsOn id = []) :
    ledger.InRound id [] :=
  ⟨ballots, List.nodup_nil, by decide⟩

/-- A first vote that leaves the quorum unreached belongs to the round. -/
theorem InRound.cast {ledger after : Ledger} {id : TaskId} {votes : List Ballot}
    {ballot : Ballot} (inRound : ledger.InRound id votes)
    (firstVote : ∀ earlier ∈ ledger.ballotsOn id, earlier.voter ≠ ballot.voter)
    (short : (ledger.ballotsOn id).length + 1 < quorum)
    (ballots : after.ballotsOn id = ledger.ballotsOn id ++ [ballot]) :
    after.InRound id (votes ++ [ballot]) := by
  rw [inRound.stored] at firstVote short ballots
  refine ⟨ballots, ?_, by simpa using short⟩
  rw [List.map_append, List.nodup_append]
  refine ⟨inRound.distinct, by simp, ?_⟩
  intro voter member other isNew
  obtain ⟨earlier, isEarlier, rfl⟩ := List.mem_map.mp member
  rw [List.map_singleton, List.mem_singleton] at isNew
  rw [isNew]
  exact firstVote earlier isEarlier

theorem InRound.third {ledger : Ledger} {id : TaskId} {votes : List Ballot}
    (inRound : ledger.InRound id votes) (full : quorum ≤ (ledger.ballotsOn id).length + 1)
    (ballot : Ballot) : (ledger.ballotsOn id ++ [ballot]).length = quorum := by
  have short := inRound.short
  rw [← inRound.stored] at short
  rw [List.length_append, List.length_singleton]
  exact Nat.le_antisymm short full

/-- The round goes on: a task that awaits verification after an occasion is in the
round with the votes after it, if it was in its round before whenever it awaited
verification then. -/
theorem InRound.after {ledger : Ledger} {id : TaskId} {votes : List Ballot}
    (numbered : ledger.Numbered) (occasion : Occasion)
    (inRound : ledger.status? id = some .pendingVerification → ledger.InRound id votes)
    (pending : (occasion.after ledger).status? id = some .pendingVerification) :
    (occasion.after ledger).InRound id (occasion.votesAfter ledger id votes) := by
  have continued (before : ledger.status? id = some .pendingVerification) :
      occasion.votesAfter ledger id votes = votes ++ (occasion.vote? ledger id).toList :=
    Occasion.votesAfter_of_not_opens fun opens => opens.1 before
  have opened (before : ledger.status? id ≠ some .pendingVerification) :
      occasion.votesAfter ledger id votes = [] :=
    Occasion.votesAfter_of_opens ⟨before, pending⟩
  have effect := occasion.effect numbered id
  generalize occasion.votesAfter ledger id votes = next at continued opened ⊢
  generalize occasion.after ledger = reached at effect pending ⊢
  cases effect with
  | untouched sameTask sameBallots noVote noAssignee =>
      have before : ledger.status? id = some .pendingVerification :=
        (status?_congr sameTask).symm.trans pending
      rw [continued before, noVote, Option.toList_none, List.append_nil]
      exact (inRound before).of_ballotsOn_eq sameBallots
  | created fresh stored sameBallots =>
      rw [status?_of_task?_eq_some stored] at pending
      cases pending
  | assigned found unassigned stored sameBallots accepted =>
      have before : ledger.status? id = some .pendingVerification := by
        rw [status?_of_task?_eq_some stored] at pending
        rw [status?_of_task?_eq_some found]
        exact pending
      have noVote : next = votes := (continued before).trans (List.append_nil votes)
      rw [noVote]
      exact (inRound before).of_ballotsOn_eq sameBallots
  | @moved signer status now task _ found byParty allowed stored ballots =>
      rw [status?_of_task?_eq_some stored] at pending
      have moved : status = .pendingVerification := Option.some.inj pending
      have before : ledger.status? id ≠ some .pendingVerification := by
        rw [status?_of_task?_eq_some found]
        intro same
        rw [moved, Option.some.inj same] at allowed
        exact absurd allowed (by decide)
      rw [opened before]
      exact inRound_nil (ballots.trans (if_pos moved))
  | @voted signer approve now task _ found awaiting notCreator notAssignee firstVote short sameTask
      ballots accepted =>
      have before := (status?_of_task?_eq_some found).trans (congrArg some awaiting)
      rw [continued before, Occasion.vote?_of_isAccepted accepted, Option.toList_some]
      exact (inRound before).cast firstVote short ballots
  | decided found awaiting notCreator notAssignee firstVote reached stored ballots accepted =>
      rw [status?_of_task?_eq_some stored] at pending
      exact absurd (Option.some.inj pending) (Transaction.verdict_ne_pendingVerification _)

end Ledger

namespace History

/-- A task that awaits verification is in the round of the votes accepted since. -/
theorem inRound (history : History) (id : TaskId)
    (pending : history.ledger.status? id = some .pendingVerification) :
    history.ledger.InRound id (history.roundVotes id) := by
  induction history with
  | start rules snapshot =>
      apply Ledger.inRound_nil
      rw [ledger, Ledger.ballotsOn, Ledger.ofSnapshot_eq]
      rfl
  | next earlier occasion ih =>
      exact Ledger.InRound.after earlier.numbered occasion ih pending

/-- No vote begins a round, so an accepted vote joins those before it. -/
theorem roundVotes_next_vote (history : History) (id target : TaskId) (signer : Account)
    (approve : Bool) (now : Instant) :
    (history.next (.call (.vote signer target approve) now)).roundVotes id =
      history.roundVotes id ++
        ((Occasion.call (.vote signer target approve) now).vote? history.ledger id).toList := by
  apply Occasion.votesAfter_of_not_opens
  rintro ⟨before, pending⟩
  have effect := (Occasion.call (.vote signer target approve) now).effect history.numbered id
  generalize (Occasion.call (.vote signer target approve) now).after history.ledger = reached
    at effect pending
  cases effect with
  | untouched sameTask => exact before ((Ledger.status?_congr sameTask).symm.trans pending)
  | voted found awaiting notCreator notAssignee firstVote short sameTask =>
      exact before ((Ledger.status?_congr sameTask).symm.trans pending)
  | decided found awaiting notCreator notAssignee firstVote reached stored =>
      rw [Ledger.status?_of_task?_eq_some stored] at pending
      exact absurd (Option.some.inj pending) (Transaction.verdict_ne_pendingVerification _)

/-- The votes stored for a task that awaits verification are those accepted since it
last came to await it, at most two and of different accounts.  A vote changes the
status of a task exactly if it is the third of these: two approvals complete the
task, fewer send it back, and the votes are dropped. -/
theorem third_vote_decides (history : History) (id : TaskId) :
    (history.ledger.status? id = some .pendingVerification →
      history.ledger.ballotsOn id = history.roundVotes id ∧
        ((history.roundVotes id).map Ballot.voter).Nodup ∧
        (history.roundVotes id).length ≤ 2) ∧
    ∀ (signer : Account) (target : TaskId) (approve : Bool) (now : Instant),
      let vote : Occasion := .call (.vote signer target approve) now
      let votes := (history.next vote).roundVotes id
      let reached := (history.next vote).ledger
      (reached.status? id ≠ history.ledger.status? id ↔
        (vote.vote? history.ledger id).isSome ∧ votes.length = 3) ∧
      ((vote.vote? history.ledger id).isSome →
        if votes.length = 3 then
          reached.status? id =
              some (if 2 ≤ votes.countP Ballot.approve then .completed else .inProgress) ∧
            reached.ballotsOn id = []
        else reached.ballotsOn id = votes) := by
  constructor
  · intro pending
    have inRound := history.inRound id pending
    exact ⟨inRound.stored, inRound.distinct, Nat.le_of_lt_succ inRound.short⟩
  · intro signer target approve now vote votes reached
    have effect := vote.effect history.numbered id
    have inRound := history.inRound id
    have cast : votes = history.roundVotes id ++ (vote.vote? history.ledger id).toList :=
      history.roundVotes_next_vote id target signer approve now
    change Occasion.Effect _ id (.call (.vote signer target approve) now) reached at effect
    clear_value votes reached
    -- Only three effects are those of a vote, and only the last of them moves the task.
    cases effect with
    | untouched sameTask sameBallots noVote =>
        have sameStatus := Ledger.status?_congr sameTask
        have noVote : vote.vote? history.ledger id = none := noVote
        simp [sameStatus, noVote]
    | voted found awaiting notCreator notAssignee firstVote short sameTask ballots accepted =>
        have sameStatus := Ledger.status?_congr sameTask
        have pending := (Ledger.status?_of_task?_eq_some found).trans (congrArg some awaiting)
        rw [Occasion.vote?_of_isAccepted accepted, Option.toList_some,
          ← (inRound pending).stored, ← ballots] at cast
        have notThird : votes.length ≠ 3 := by
          rw [cast, ballots, List.length_append, List.length_singleton]
          exact Nat.ne_of_lt short
        simp [sameStatus, notThird, ← cast]
    | decided found awaiting notCreator notAssignee firstVote full stored ballots accepted =>
        have pending := (Ledger.status?_of_task?_eq_some found).trans (congrArg some awaiting)
        have counted : vote.vote? history.ledger id = some ⟨id, signer, approve⟩ :=
          Occasion.vote?_of_isAccepted accepted
        rw [counted, Option.toList_some, ← (inRound pending).stored] at cast
        have third : votes.length = 3 := by
          rw [cast]
          exact (inRound pending).third full _
        have outcome := Ledger.status?_of_task?_eq_some stored
        rw [← cast] at outcome
        have moved : reached.status? id ≠ history.ledger.status? id := by
          rw [outcome, pending]
          intro same
          exact Transaction.verdict_ne_pendingVerification votes (Option.some.inj same)
        refine ⟨⟨fun _ => ⟨Option.isSome_of_eq_some counted, third⟩, fun _ => moved⟩, fun _ => ?_⟩
        rw [if_pos third, ← Transaction.verdict_of_length_eq_quorum third]
        exact ⟨outcome, ballots⟩

/-- A round that the creator ends after bob's vote against the task, and two votes of the next. -/
def twoRounds : History :=
  let task := Task.fresh ⟨1, Nat.one_pos⟩ "Review" ⟨"alice"⟩ .epoch
  let calls : List Command := [
    .vote ⟨"bob"⟩ task.id false,
    .changeStatus ⟨"alice"⟩ task.id .inProgress,
    .changeStatus ⟨"alice"⟩ task.id .pendingVerification,
    .vote ⟨"bob"⟩ task.id true,
    .vote ⟨"carol"⟩ task.id true]
  calls.foldl (fun history command => history.next (.call command .epoch))
    (start .standard [{ task with status := .pendingVerification }])

/-- The vote of the first round is not counted in the second. -/
theorem third_vote_decides_second_round :
    let task : TaskId := ⟨1, Nat.one_pos⟩
    let next := twoRounds.next (.call (.vote ⟨"dave"⟩ task false) .epoch)
    (twoRounds.ledger.ballotsOn task).length = 2 ∧
      next.ledger.status? task = some .completed ∧ next.ledger.ballotsOn task = [] := by
  intro task next
  have rounds := twoRounds.third_vote_decides task
  have stored := (rounds.1 rfl).1
  have third : (next.roundVotes task).length = 3 := rfl
  have decided := (rounds.2 ⟨"dave"⟩ task false .epoch).2 rfl
  rw [if_pos third] at decided
  exact ⟨congrArg List.length stored, decided⟩

end History

end TaskBoard
