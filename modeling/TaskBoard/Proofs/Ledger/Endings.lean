import Mathlib.Algebra.BigOperators.Group.Finset.Piecewise
import Mathlib.Data.List.Perm.Subperm
import TaskBoard.Proofs.Ledger.Merits

/-!
# Endings of tasks

A task ends for an account when it comes to be completed or cancelled while it is assigned
to the account.  An ended task keeps its status and its assignee for ever, so no task ends
twice, whether its parties end it or a verdict does.  The counters of a reputation count
exactly the endings of tasks for the account.
-/

namespace TaskBoard

/-- That a task comes to a final status while an account is assigned to it. -/
structure Ending where
  task : TaskId
  account : Account
  outcome : Status

/-- The outcome of an ending, if it is one for an account. -/
def Ending.outcomeFor? (account : Account) (ending : Ending) : Option Status :=
  if ending.account = account then some ending.outcome else none

/-- The ending of a task that has reached a status, if it is one. -/
def Task.ending? (task : Task) (reached : Option Status) : Option Ending := do
  let account ← task.assignee
  let outcome ← reached
  if outcome ≠ task.status ∧ outcome.isFinal = true then some ⟨task.id, account, outcome⟩
  else none

/-- The endings of tasks on an occasion. -/
def Occasion.endings (occasion : Occasion) (ledger : Ledger) : List Ending :=
  ledger.tasks.filterMap fun task => task.ending? ((occasion.after ledger).status? task.id)

/-- All endings of tasks since the start, in order. -/
def History.endings : History → List Ending
  | start _ _ => []
  | next earlier occasion => earlier.endings ++ occasion.endings earlier.ledger

theorem Task.ending?_eq_some_iff {task : Task} {reached : Option Status} {ending : Ending} :
    task.ending? reached = some ending ↔
      ending.task = task.id ∧ task.assignee = some ending.account ∧
        reached = some ending.outcome ∧ ending.outcome ≠ task.status ∧
        ending.outcome.isFinal = true := by
  rcases ending with ⟨id, account, outcome⟩
  simp only [ending?, bind, Option.bind_eq_some_iff, Option.ite_none_right_eq_some,
    Option.some.injEq, Ending.mk.injEq]
  constructor
  · rintro ⟨worker, assigned, status, same, ⟨changed, final⟩, rfl, rfl, rfl⟩
    exact ⟨rfl, assigned, same, changed, final⟩
  · rintro ⟨rfl, assigned, same, changed, final⟩
    exact ⟨_, assigned, _, same, ⟨changed, final⟩, rfl, rfl, rfl⟩

/-! ## Counting endings -/

/-- The outcome of a task that a merit consists in, if it is one in a task. -/
def Merit.outcome? : Merit → Option Status
  | completion _ _ => some .completed
  | cancellation _ => some .cancelled
  | rating _ _ => none

/-- The number of tasks with an outcome that a reputation counts. -/
def Reputation.tally (reputation : Reputation) : Status → Nat
  | .completed => reputation.completedTasks.val
  | .cancelled => reputation.cancelledTasks.val
  | _ => 0

namespace Reputation

theorem tally_le (reputation : Reputation) (outcome : Status) :
    reputation.tally outcome ≤ 4294967295 := by
  cases outcome with
  | completed => exact reputation.completedTasks.le_limit
  | cancelled => exact reputation.cancelledTasks.le_limit
  | pending | inProgress | pendingVerification => exact Nat.zero_le _

theorem tally_record (rules : Rules) (reputation : Reputation) (merit : Merit)
    (outcome : Status) :
    (merit.record rules reputation).tally outcome =
      min (reputation.tally outcome + if merit.outcome? = some outcome then 1 else 0)
        4294967295 := by
  have bound := reputation.tally_le outcome
  cases merit with
  | completion difficulty now =>
      cases outcome with
      | completed => rfl
      | _ => exact (Nat.min_eq_left bound).symm
  | cancellation now =>
      cases outcome with
      | cancelled => rfl
      | _ => exact (Nat.min_eq_left bound).symm
  | rating given now =>
      cases outcome with
      | _ => exact (Nat.min_eq_left bound).symm

/-- A counter grows with the merits that it counts and stops at its bound. -/
theorem tally_foldl_record (rules : Rules) (merits : List Merit) (reputation : Reputation)
    (outcome : Status) :
    (merits.foldl (Merit.record rules) reputation).tally outcome =
      min (reputation.tally outcome + (merits.filterMap Merit.outcome?).count outcome)
        4294967295 := by
  have counted (state : Reputation) (merit : Merit) :
      (merit.record rules state).tally outcome =
        min (state.tally outcome +
          (merit.outcome?.map fun reached => if reached = outcome then 1 else 0).getD 0)
          4294967295 := by
    rw [tally_record]
    cases merit.outcome? <;> simp
  have stopped := foldl_filterMap_stops_at (fun state : Reputation => state.tally outcome)
    Merit.outcome? (fun reached => if reached = outcome then 1 else 0) counted merits
    (reputation.tally_le outcome)
  rw [List.sum_map_ite] at stopped
  simpa [List.count_eq_length_filter, beq_eq_decide] using stopped

end Reputation

/-- The merits of an account in a task are its endings for the account. -/
theorem Task.outcome?_merit? (task : Task) (account : Account) (reached : Option Status)
    (now : Instant) :
    (task.merit? account reached now).bind Merit.outcome? =
      (task.ending? reached).bind (Ending.outcomeFor? account) := by
  cases assigned : task.assignee with
  | none => simp [merit?, ending?, assigned]
  | some worker =>
      cases reached with
      | none => simp [merit?, ending?, assigned]
      | some status =>
          by_cases changed : status = task.status
          · simp [merit?, ending?, assigned, changed]
          · by_cases same : worker = account
            · cases status
              all_goals
                simp [merit?, ending?, assigned, changed, same, Merit.outcome?,
                  Ending.outcomeFor?, Status.isFinal]
            · have notFor : Ending.outcomeFor? account ⟨task.id, worker, status⟩ = none :=
                if_neg same
              simp only [merit?, ending?, assigned, Option.some.injEq, same, false_and, ↓reduceIte,
                bind, Option.bind_some, Option.bind_none]
              split
              · exact notFor.symm
              · rfl

/-! ## What has ended -/

/-- The task of an ending has the outcome and the assignee that it ended with. -/
structure Ledger.Keeps (ledger : Ledger) (ending : Ending) : Prop where
  final : ending.outcome.isFinal = true
  ended : ∃ task, ledger.task? ending.task = some task ∧ task.assignee = some ending.account ∧
    task.status = ending.outcome

namespace Occasion

variable {ledger : Ledger} {occasion : Occasion} {ending other : Ending}

/-- Nothing alters the outcome and the assignee of a task that has ended. -/
theorem keeps_after (numbered : ledger.Numbered) (keeps : ledger.Keeps ending)
    (occasion : Occasion) : (occasion.after ledger).Keeps ending := by
  obtain ⟨task, found, assigned, reached⟩ := keeps.ended
  obtain ⟨later, stored, rfl | alters⟩ := task_after numbered found occasion
  · exact ⟨keeps.final, later, stored, assigned, reached⟩
  · have none : task.status.next = [] :=
      Status.isFinal_iff_next_eq_nil.mp (reached ▸ keeps.final)
    cases alters with
    | assigned unassigned =>
        rw [unassigned] at assigned
        cases assigned
    | moved byParty allowed =>
        rw [Status.allows_iff, none] at allowed
        cases allowed
    | decided pending =>
        rw [pending] at none
        cases none

/-- A task that ends on an occasion has another status before and the outcome afterwards. -/
theorem of_mem_endings (ascending : Ledger.Ascending ledger.tasks)
    (member : ending ∈ occasion.endings ledger) :
    ∃ task, ledger.task? ending.task = some task ∧ task.assignee = some ending.account ∧
      (occasion.after ledger).status? ending.task = some ending.outcome ∧
      ending.outcome ≠ task.status ∧ ending.outcome.isFinal = true := by
  obtain ⟨task, isTask, ends⟩ := List.mem_filterMap.mp member
  obtain ⟨same, assigned, reached, changed, final⟩ := Task.ending?_eq_some_iff.mp ends
  rw [← same] at reached
  exact ⟨task, (Ledger.task?_eq_some_iff ascending).mpr ⟨isTask, same.symm⟩, assigned, reached,
    changed, final⟩

theorem keeps_of_mem_endings (numbered : ledger.Numbered)
    (ascending : Ledger.Ascending ledger.tasks) (member : ending ∈ occasion.endings ledger) :
    (occasion.after ledger).Keeps ending := by
  obtain ⟨task, found, assigned, reached, changed, final⟩ := of_mem_endings ascending member
  obtain ⟨later, stored, rfl | alters⟩ := task_after numbered found occasion
  · have same := (Ledger.status?_of_task?_eq_some stored).symm.trans reached
    exact absurd (Option.some.inj same).symm changed
  · refine ⟨final, later, stored, ?_, ?_⟩
    · cases alters with
      | assigned unassigned =>
          rw [unassigned] at assigned
          cases assigned
      | moved | decided => exact assigned
    · exact Option.some.inj ((Ledger.status?_of_task?_eq_some stored).symm.trans reached)

/-- A task that has ended does not end again. -/
theorem task_ne_of_mem_endings (numbered : ledger.Numbered)
    (ascending : Ledger.Ascending ledger.tasks) (keeps : ledger.Keeps other)
    (member : ending ∈ occasion.endings ledger) : other.task ≠ ending.task := by
  intro same
  obtain ⟨task, found, _, reached, changed, _⟩ := of_mem_endings ascending member
  obtain ⟨ended, isEnded, _, wasReached⟩ := keeps.ended
  obtain ⟨later, stored, _, stillReached⟩ := (keeps_after numbered keeps occasion).ended
  rw [same] at isEnded stored
  cases found.symm.trans isEnded
  rw [Ledger.status?_of_task?_eq_some stored, stillReached, ← wasReached] at reached
  exact changed (Option.some.inj reached).symm

/-- No two tasks that end on one occasion are the same. -/
theorem nodup_endings (ascending : Ledger.Ascending ledger.tasks) :
    ((occasion.endings ledger).map Ending.task).Nodup := by
  rw [List.Nodup, List.pairwise_map, endings, List.pairwise_filterMap]
  apply ascending.imp
  intro left right smaller first ends second alsoEnds same
  have ofLeft := (Task.ending?_eq_some_iff.mp ends).1
  have ofRight := (Task.ending?_eq_some_iff.mp alsoEnds).1
  rw [← ofLeft, ← ofRight, same] at smaller
  exact Nat.lt_irrefl _ smaller

/-- The merits of an account on an occasion count the endings of tasks for it. -/
theorem filterMap_outcome?_merits (ascending : Ledger.Ascending ledger.tasks)
    (occasion : Occasion) (account : Account) :
    (occasion.merits ledger account).filterMap Merit.outcome? =
      (occasion.endings ledger).filterMap (Ending.outcomeFor? account) := by
  cases occasion with
  | connection offline =>
      have nothing : (connection offline).endings ledger = [] := by
        rw [List.eq_nil_iff_forall_not_mem]
        intro ending member
        obtain ⟨task, found, _, reached, changed, _⟩ := of_mem_endings ascending member
        exact changed (Option.some.inj
          (reached.symm.trans (Ledger.status?_of_task?_eq_some found)))
      rw [nothing]
      rfl
  | call command now =>
      have noneOfRatings : ((command.ratingOf? now ledger account).toList.map fun rating =>
          Merit.rating rating now).filterMap Merit.outcome? = [] := by
        cases command.ratingOf? now ledger account with
        | none => rfl
        | some rating => rfl
      rw [merits, List.filterMap_append, noneOfRatings, List.append_nil, Ledger.taskMerits,
        List.filterMap_filterMap, endings, List.filterMap_filterMap]
      apply List.filterMap_congr
      intro task _
      exact task.outcome?_merit? account _ now

end Occasion

/-- Each ending is for one account only. -/
theorem Ending.sum_countP_le (endings : List Ending) (outcome : Status)
    (accounts : Finset Account) :
    ∑ account ∈ accounts, (endings.countP fun ending =>
        ending.account = account ∧ ending.outcome = outcome) ≤
      endings.countP fun ending => ending.outcome = outcome := by
  induction endings with
  | nil => simp
  | cons ending rest ih =>
      simp only [List.countP_cons, Finset.sum_add_distrib]
      apply Nat.add_le_add ih
      by_cases reached : ending.outcome = outcome
      · -- Only the account of the ending adds to the sum.
        simp only [reached, and_true, decide_eq_true_eq, Finset.sum_ite_eq, ↓reduceIte]
        split
        · exact Nat.le_refl _
        · exact Nat.zero_le _
      · simp [reached]

namespace History

theorem keeps_of_mem_endings (history : History) {ending : Ending}
    (member : ending ∈ history.endings) : history.ledger.Keeps ending := by
  induction history with
  | start rules snapshot => cases member
  | next earlier occasion ih =>
      rcases List.mem_append.mp member with isEarlier | isNew
      · exact Occasion.keeps_after earlier.numbered (ih isEarlier) occasion
      · exact Occasion.keeps_of_mem_endings earlier.numbered earlier.ascending isNew

/-- No task ends twice. -/
theorem nodup_endings (history : History) : (history.endings.map Ending.task).Nodup := by
  induction history with
  | start rules snapshot => exact List.nodup_nil
  | next earlier occasion ih =>
      rw [endings, List.map_append, List.nodup_append]
      refine ⟨ih, Occasion.nodup_endings earlier.ascending, ?_⟩
      intro id isEarlier other isNew same
      obtain ⟨ended, member, rfl⟩ := List.mem_map.mp isEarlier
      obtain ⟨ending, isEnding, rfl⟩ := List.mem_map.mp isNew
      exact Occasion.task_ne_of_mem_endings earlier.numbered earlier.ascending
        (earlier.keeps_of_mem_endings member) isEnding same

theorem filterMap_outcome?_merits (history : History) (account : Account) :
    (history.merits account).filterMap Merit.outcome? =
      history.endings.filterMap (Ending.outcomeFor? account) := by
  induction history with
  | start rules snapshot => rfl
  | next earlier occasion ih =>
      rw [merits, endings, List.filterMap_append, List.filterMap_append, ih,
        Occasion.filterMap_outcome?_merits earlier.ascending]

/-- There are no more endings than numbers of tasks. -/
theorem length_endings_le (history : History) : history.endings.length ≤ 4294967295 := by
  have distinct : (history.endings.map fun ending => ending.task.toNat).Nodup := by
    have numbered := history.nodup_endings.map fun _ _ => Id.toNat_inj.mp
    rw [List.map_map] at numbered
    exact numbered
  have numbers : (history.endings.map fun ending => ending.task.toNat) ⊆
      List.range' 1 4294967295 := by
    intro number member
    obtain ⟨ending, _, rfl⟩ := List.mem_map.mp member
    have positive := ending.task.positive
    have bound := ending.task.number.le_limit
    rw [List.mem_range'_1, Id.toNat]
    omega
  have bounded := (distinct.subperm numbers).length_le
  rw [List.length_map, List.length_range'] at bounded
  exact bounded

/-- A counter of a reputation is the number of endings with its outcome for the account. -/
theorem tally_reputation (history : History) (account : Account) (outcome : Status) :
    (history.ledger.reputation account).tally outcome =
      history.endings.countP fun ending =>
        ending.account = account ∧ ending.outcome = outcome := by
  have bound := Nat.le_trans
    (List.countP_le_length (p := fun ending : Ending =>
      ending.account = account ∧ ending.outcome = outcome)) history.length_endings_le
  have counted : (history.endings.filterMap (Ending.outcomeFor? account)).count outcome =
      history.endings.countP fun ending =>
        ending.account = account ∧ ending.outcome = outcome := by
    rw [List.count, List.countP_filterMap]
    apply List.countP_congr
    intro ending _
    by_cases same : ending.account = account
    · simp [Ending.outcomeFor?, same]
    · simp [Ending.outcomeFor?, same]
  have initial : Reputation.initial.tally outcome = 0 := by
    cases outcome
    all_goals rfl
  rw [reputation_eq_foldl_merits, Reputation.tally_foldl_record, filterMap_outcome?_merits,
    counted, initial, Nat.zero_add, Nat.min_eq_left bound]

/-- Each ending with an outcome has left a task with that status. -/
theorem countP_endings_le (history : History) (outcome : Status) :
    (history.endings.countP fun ending => ending.outcome = outcome) ≤
      history.ledger.tasks.countP fun task => task.status = outcome := by
  rw [List.countP_eq_length_filter, List.countP_eq_length_filter]
  have distinct : ((history.endings.filter fun ending => ending.outcome = outcome).map
      Ending.task).Nodup := history.nodup_endings.sublist (List.filter_sublist.map _)
  have ended : ((history.endings.filter fun ending => ending.outcome = outcome).map
      Ending.task) ⊆
        (history.ledger.tasks.filter fun task => task.status = outcome).map Task.id := by
    intro id member
    obtain ⟨ending, isEnding, rfl⟩ := List.mem_map.mp member
    obtain ⟨inHistory, hasOutcome⟩ := List.mem_filter.mp isEnding
    obtain ⟨task, found, _, reached⟩ := (history.keeps_of_mem_endings inHistory).ended
    obtain ⟨isTask, same⟩ := (Ledger.task?_eq_some_iff history.ascending).mp found
    refine List.mem_map.mpr ⟨task, List.mem_filter.mpr ⟨isTask, ?_⟩, same⟩
    rw [reached]
    exact hasOutcome
  have bounded := (distinct.subperm ended).length_le
  rw [List.length_map, List.length_map] at bounded
  exact bounded

/-- All reputations together count no more tasks with an outcome than there are. -/
theorem sum_tally_le (history : History) (outcome : Status) (accounts : Finset Account) :
    ∑ account ∈ accounts, (history.ledger.reputation account).tally outcome ≤
      history.ledger.tasks.countP fun task => task.status = outcome := by
  calc
    ∑ account ∈ accounts, (history.ledger.reputation account).tally outcome
      = ∑ account ∈ accounts, (history.endings.countP fun ending =>
          ending.account = account ∧ ending.outcome = outcome) := by
        simp only [tally_reputation]
    _ ≤ history.endings.countP fun ending => ending.outcome = outcome :=
        Ending.sum_countP_le history.endings outcome accounts
    _ ≤ history.ledger.tasks.countP fun task => task.status = outcome :=
        history.countP_endings_le outcome

end History

end TaskBoard
