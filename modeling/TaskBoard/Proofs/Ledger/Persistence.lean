import TaskBoard.Proofs.Ledger.Alteration
import TaskBoard.Proofs.Ledger.Listing

/-!
# Persistence of tasks

No task is lost or overwritten, and what was laid down when it was created never
changes.  A call alters no other task than the one that it names.  New tasks go behind
all others, as long as there are numbers for them.
-/

namespace TaskBoard

/-- What of a task never changes: all but the assignee, the status and the time of the
last change. -/
structure Terms where
  id : TaskId
  title : String
  description : String
  creator : Account
  priority : Priority
  difficulty : Difficulty
  reward : Word64
  deadline : Option Instant
  createdAt : Instant
  deriving DecidableEq

/-- The terms of a task. -/
def Task.terms (task : Task) : Terms where
  id := task.id
  title := task.title
  description := task.description
  creator := task.creator
  priority := task.priority
  difficulty := task.difficulty
  reward := task.reward
  deadline := task.deadline
  createdAt := task.createdAt

namespace Occasion.Alters

variable {ledger : Ledger} {task later : Task} {occasion : Occasion}

theorem terms_eq (alters : occasion.Alters ledger task later) : later.terms = task.terms := by
  cases alters with
  | assigned => rfl
  | moved => rfl
  | decided => rfl

/-- A task is altered by a call that names it, and is updated then. -/
theorem exists_call (alters : occasion.Alters ledger task later) :
    ∃ command now, occasion = .call command now ∧ command.target? = some task.id ∧
      later.updatedAt.millis = max now.millis task.createdAt.millis := by
  cases alters with
  | assigned => exact ⟨_, _, rfl, rfl, Instant.latest_millis _ _⟩
  | moved => exact ⟨_, _, rfl, rfl, Instant.latest_millis _ _⟩
  | decided => exact ⟨_, _, rfl, rfl, Instant.latest_millis _ _⟩

/-- An alteration keeps the assignee, unless the creator assigns the task to another
account and nobody was assigned before. -/
theorem assignee (alters : occasion.Alters ledger task later) :
    later.assignee = task.assignee ∨
      task.assignee = none ∧ ∃ assignee now, assignee ≠ task.creator ∧
        later.assignee = some assignee ∧
        occasion = .call (.assign task.creator task.id assignee) now := by
  cases alters with
  | assigned unassigned toOther => exact .inr ⟨unassigned, _, _, toOther, rfl, rfl⟩
  | moved => exact .inl rfl
  | decided => exact .inl rfl

end Occasion.Alters

namespace Command

variable {signer : Account} {draft : Draft} {now : Instant} {ledger : Ledger}

/-- A new task goes behind all others, under the identifier that is answered. -/
theorem tasks_of_run_create {receipt : Receipt (Option TaskId)} {after : Ledger}
    (numbered : ledger.Numbered)
    (ran : (create signer draft).run now ledger = (.ok receipt, after)) :
    ∃ id, receipt.answer = some id ∧ (∀ task ∈ ledger.tasks, task.id.toNat < id.toNat) ∧
      after.tasks = ledger.tasks ++ [draft.toTask id signer now] := by
  cases run_eq_ok_iff.mp ran with
  | create titled online fits =>
      have greatest := numbered.lt_nextTask fits
      exact ⟨_, rfl, greatest, Ledger.putTask_eq_append greatest⟩

/-- No task is created when the numbers are used up. -/
theorem run_create_of_exhausted (exhausted : ledger.lastTask.val = 4294967295) :
    ∃ refusal, (create signer draft).run now ledger = (.error refusal, ledger) := by
  rcases ran : (create signer draft).run now ledger with ⟨refusal | receipt, after⟩
  · rw [ledger_eq_of_run_eq_error ran]
    exact ⟨refusal, rfl⟩
  · cases run_eq_ok_iff.mp ran with
    | create titled online fits => omega

end Command

namespace History

/-- A task stays with its terms, and with its assignee once it has one, whatever happens. -/
theorem task?_extend {history : History} {id : TaskId} {task : Task}
    (found : history.ledger.task? id = some task) (occasions : List Occasion) :
    ∃ later, (history.extend occasions).ledger.task? id = some later ∧
      later.terms = task.terms ∧
      ∀ account, task.assignee = some account → later.assignee = some account := by
  refine extend_keeps
    (fun reached => ∃ later, reached.ledger.task? id = some later ∧ later.terms = task.terms ∧
      ∀ account, task.assignee = some account → later.assignee = some account)
    ⟨task, found, rfl, fun _ assigned => assigned⟩ ?_ occasions
  rintro earlier occasion ⟨before, wasFound, sameTerms, stayed⟩
  obtain ⟨later, stored, rfl | alters⟩ := Occasion.task_after earlier.numbered wasFound occasion
  · exact ⟨later, stored, sameTerms, stayed⟩
  · refine ⟨later, stored, alters.terms_eq.trans sameTerms, fun account assigned => ?_⟩
    have before := stayed account assigned
    rcases alters.assignee with kept | ⟨unassigned, _⟩
    · exact kept.trans before
    · rw [unassigned] at before
      cases before

/-- Tasks persist: the listing ascends and every task stays on it with its terms; an
occasion alters at most the task that its call names, and in few ways; new tasks come by
creation only, go behind all others, and are refused when there is no number left. -/
theorem tasks_persist (history : History) :
    (history.ledger.tasks.Pairwise fun left right => left.id.toNat < right.id.toNat) ∧
    (history.ledger.listTasks =
      if history.ledger.offline then .error .disconnected else .ok history.ledger.tasks) ∧
    (∀ task ∈ history.ledger.tasks, ∀ occasions,
      ∃ later ∈ (history.extend occasions).ledger.tasks, later.terms = task.terms ∧
        ∀ account, task.assignee = some account → later.assignee = some account) ∧
    (∀ task ∈ history.ledger.tasks, ∀ occasion,
      ∀ later ∈ (history.next occasion).ledger.tasks, later.id = task.id → later ≠ task →
        (∃ command now, occasion = .call command now ∧ command.target? = some task.id ∧
          later.updatedAt.millis = max now.millis task.createdAt.millis) ∧
        (later.assignee = task.assignee ∨
          task.assignee = none ∧ ∃ assignee now, assignee ≠ task.creator ∧
            later.assignee = some assignee ∧
            occasion = .call (.assign task.creator task.id assignee) now)) ∧
    (∀ occasion, ∀ later ∈ (history.next occasion).ledger.tasks,
      (∀ task ∈ history.ledger.tasks, task.id ≠ later.id) →
        ∃ signer draft now, occasion = .call (.create signer draft) now ∧
          later = draft.toTask later.id signer now) ∧
    (∀ signer draft now receipt after,
      (Command.create signer draft).run now history.ledger = (.ok receipt, after) →
        ∃ id, receipt.answer = some id ∧
          (∀ task ∈ history.ledger.tasks, task.id.toNat < id.toNat) ∧
          after.tasks = history.ledger.tasks ++ [draft.toTask id signer now]) ∧
    ∀ task ∈ history.ledger.tasks, task.id.toNat = 4294967295 → ∀ signer draft now,
      ∃ refusal, (Command.create signer draft).run now history.ledger =
        (.error refusal, history.ledger) := by
  have isFound {earlier : History} {task : Task} (member : task ∈ earlier.ledger.tasks) :
      earlier.ledger.task? task.id = some task :=
    (Ledger.task?_eq_some_iff earlier.ascending).mpr ⟨member, rfl⟩
  refine ⟨history.ascending, ?_, ?_, ?_, ?_, ?_, ?_⟩
  · rw [Ledger.listTasks, Ledger.checkOnline]
    cases history.ledger.offline with
    | false => rfl
    | true => rfl
  · intro task member occasions
    obtain ⟨later, stored, kept⟩ := task?_extend (isFound member) occasions
    exact ⟨later, List.mem_of_find?_eq_some stored, kept⟩
  · intro task member occasion later isLater sameId altered
    obtain ⟨other, stored, same⟩ :=
      Occasion.task_after history.numbered (isFound member) occasion
    have isStored : (history.next occasion).ledger.task? later.id = some later := isFound isLater
    rw [sameId] at isStored
    cases stored.symm.trans isStored
    rcases same with same | alters
    · exact absurd same altered
    · exact ⟨alters.exists_call, alters.assignee⟩
  · intro occasion later isLater isNew
    have absent : history.ledger.task? later.id = none := by
      rw [Ledger.task?, List.find?_eq_none]
      intro task member same
      exact isNew task member (by simpa using same)
    exact Occasion.created_of_new history.numbered absent (isFound isLater)
  · intro signer draft now receipt after ran
    exact Command.tasks_of_run_create history.numbered ran
  · intro task member greatest signer draft now
    apply Command.run_create_of_exhausted
    have atMost := history.numbered task member
    have bound := history.ledger.lastTask.le_limit
    omega

/-- A snapshot with two tasks under the last number, of which the second counts; it is
created after the epoch. -/
def lastNumber : History :=
  let task := Task.fresh ⟨4294967295, by decide⟩ "Review" ⟨"alice"⟩ ⟨5, by decide, by decide⟩
  start .standard [{ task with title := "Draft" }, task]

/-- Alice assigns the last task to bob at the epoch, which is told by its new time of the
last change; bob stays the assignee, and no further task can be created. -/
theorem tasks_persist_lastNumber :
    let task := Task.fresh ⟨4294967295, by decide⟩ "Review" ⟨"alice"⟩ ⟨5, by decide, by decide⟩
    let assign : Occasion := .call (.assign ⟨"alice"⟩ task.id ⟨"bob"⟩) .epoch
    task ∈ lastNumber.ledger.tasks ∧
      (∃ later ∈ (lastNumber.next assign).ledger.tasks, later.id = task.id ∧ later ≠ task ∧
        assign = .call (.assign task.creator task.id ⟨"bob"⟩) .epoch ∧
        later.updatedAt.millis = 5 ∧
        ∀ occasions, ∃ last ∈ ((lastNumber.next assign).extend occasions).ledger.tasks,
          last.terms = task.terms ∧ last.assignee = some ⟨"bob"⟩) ∧
      ∃ refusal, (Command.create ⟨"alice"⟩ (.titled "Next")).run .epoch lastNumber.ledger =
        (.error refusal, lastNumber.ledger) := by
  intro task assign
  have member : task ∈ lastNumber.ledger.tasks := List.mem_cons_self
  obtain ⟨_, _, _, altered, _, _, refused⟩ := lastNumber.tasks_persist
  obtain ⟨_, _, stays, _⟩ := (lastNumber.next assign).tasks_persist
  let later := Task.touch { task with assignee := some ⟨"bob"⟩ } .epoch
  have isLater : later ∈ (lastNumber.next assign).ledger.tasks := List.mem_cons_self
  have different : later ≠ task := by
    intro same
    cases congrArg Task.assignee same
  obtain ⟨⟨command, now, isCall, _, updated⟩, _⟩ :=
    altered task member assign later isLater rfl different
  obtain ⟨rfl, rfl⟩ := Occasion.call.inj isCall
  refine ⟨member, ⟨later, isLater, rfl, different, rfl, updated, fun occasions => ?_⟩,
    refused task member rfl ⟨"alice"⟩ (.titled "Next") .epoch⟩
  obtain ⟨last, isLast, sameTerms, stayed⟩ := stays later isLater occasions
  exact ⟨last, isLast, sameTerms, stayed ⟨"bob"⟩ rfl⟩

end History

end TaskBoard
