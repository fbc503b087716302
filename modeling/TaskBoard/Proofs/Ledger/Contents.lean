import TaskBoard.Proofs.Ledger.Acceptance

/-!
# Contents of the ledger after a write

Each write of a part of the ledger is followed here by what the questions to the
ledger answer after it: the task under an identifier, the votes on a task and
the reputation of an account.
-/

namespace TaskBoard

namespace Ledger

/-- The status of the task with an identifier. -/
def status? (ledger : Ledger) (id : TaskId) : Option Status := (ledger.task? id).map Task.status

theorem status?_of_task?_eq_some {ledger : Ledger} {id : TaskId} {task : Task}
    (found : ledger.task? id = some task) : ledger.status? id = some task.status := by
  rw [status?, found, Option.map_some]

theorem status?_congr {ledger after : Ledger} {id : TaskId}
    (sameTask : after.task? id = ledger.task? id) : after.status? id = ledger.status? id := by
  rw [status?, status?, sameTask]

/-- The account that is assigned to the task with an identifier. -/
def assignee? (ledger : Ledger) (id : TaskId) : Option Account :=
  (ledger.task? id).bind Task.assignee

theorem assignee?_of_task?_eq_some {ledger : Ledger} {id : TaskId} {task : Task}
    (found : ledger.task? id = some task) : ledger.assignee? id = task.assignee := by
  rw [assignee?, found, Option.bind_some]

theorem assignee?_congr {ledger after : Ledger} {id : TaskId}
    (sameTask : after.task? id = ledger.task? id) : after.assignee? id = ledger.assignee? id := by
  rw [assignee?, assignee?, sameTask]

theorem id_of_task?_eq_some {ledger : Ledger} {id : TaskId} {task : Task}
    (found : ledger.task? id = some task) : task.id = id := by
  have satisfied := List.find?_some found
  simpa using satisfied

/-! ## Snapshots -/

/-- A snapshot brings nothing but tasks and the number of the last one. -/
theorem ofSnapshot_eq (rules : Rules) (snapshot : List Task) :
    ofSnapshot rules snapshot =
      { empty rules with
        tasks := (ofSnapshot rules snapshot).tasks
        lastTask := (ofSnapshot rules snapshot).lastTask } := by
  suffices kept : ∀ ledger : Ledger, snapshot.foldl addTask ledger =
      { ledger with
        tasks := (snapshot.foldl addTask ledger).tasks
        lastTask := (snapshot.foldl addTask ledger).lastTask } by
    exact kept (empty rules)
  induction snapshot with
  | nil => exact fun _ => rfl
  | cons task rest ih => exact fun ledger => ih (ledger.addTask task)

/-! ## Tasks -/

/-- A task that is put among others is found under its identifier; the others
are found as before. -/
theorem find?_putTask (task : Task) (tasks : List Task) (id : TaskId) :
    (putTask task tasks).find? (fun other => other.id == id) =
      if task.id = id then some task else tasks.find? fun other => other.id == id := by
  induction tasks with
  | nil => by_cases same : task.id = id <;> simp [putTask, same]
  | cons first rest ih =>
      simp only [putTask]
      split
      · by_cases same : task.id = id <;> simp [same]
      · split
        · next replaced =>
          by_cases same : task.id = id
          · simp [same]
          · simp [same, ← replaced]
        · next different =>
          by_cases same : task.id = id
          · have passed : first.id ≠ id := fun equal => different (same.trans equal.symm)
            simp [ih, same, passed]
          · simp [ih, same, List.find?_cons]

theorem mem_putTask {task other : Task} {tasks : List Task}
    (member : other ∈ putTask task tasks) : other = task ∨ other ∈ tasks := by
  induction tasks with
  | nil => simpa [putTask] using member
  | cons first rest ih =>
      simp only [putTask] at member
      split at member
      · simpa using member
      · split at member
        · rw [List.mem_cons] at member
          exact member.imp_right (List.mem_cons_of_mem _)
        · rw [List.mem_cons] at member
          rcases member with isFirst | inRest
          · simp [isFirst]
          · exact (ih inRest).imp_right (List.mem_cons_of_mem _)

/-- A task with a greater identifier than all others is put behind them. -/
theorem putTask_eq_append {task : Task} {tasks : List Task}
    (greatest : ∀ other ∈ tasks, other.id.toNat < task.id.toNat) :
    putTask task tasks = tasks ++ [task] := by
  induction tasks with
  | nil => rfl
  | cons first rest ih =>
      have smaller := greatest first List.mem_cons_self
      have notGreater : ¬ task.id.toNat < first.id.toNat := by omega
      have different : task.id ≠ first.id := by
        intro equal
        rw [equal] at smaller
        exact absurd smaller (Nat.lt_irrefl _)
      simp only [putTask, notGreater, different, ↓reduceIte, List.cons_append]
      rw [ih fun other member => greatest other (List.mem_cons_of_mem _ member)]

/-- A change that keeps the identifiers of tasks is found at the task that is
changed, and only there. -/
theorem task?_updateTask (ledger : Ledger) (id other : TaskId) (change : Task → Task)
    (keeps : ∀ task, (change task).id = task.id) :
    (ledger.updateTask id change).task? other =
      if other = id then (ledger.task? id).map change else ledger.task? other := by
  have sameTest : ((fun task : Task => task.id == other) ∘
      fun task => if task.id = id then change task else task) = fun task => task.id == other := by
    funext task
    by_cases changed : task.id = id
    · simp [changed, keeps]
    · simp [changed]
  simp only [updateTask, changeTask, task?, List.find?_map, sameTest]
  by_cases same : other = id
  · subst same
    simp only [↓reduceIte]
    cases found : ledger.tasks.find? fun task => task.id == other with
    | none => rfl
    | some task =>
        have sameId : task.id = other := id_of_task?_eq_some found
        simp [sameId]
  · simp only [same, ↓reduceIte]
    cases found : ledger.tasks.find? fun task => task.id == other with
    | none => rfl
    | some task =>
        have sameId : task.id = other := id_of_task?_eq_some found
        have different : task.id ≠ id := sameId ▸ same
        simp [different]

theorem task?_addNew (ledger : Ledger) (fits : ledger.lastTask.val + 1 ≤ 4294967295)
    (task : Task) (id : TaskId) :
    (ledger.addNew fits task).task? id = if task.id = id then some task else ledger.task? id :=
  find?_putTask task ledger.tasks id

/-! ## Changes of status -/

section Change

variable (ledger : Ledger) (id : TaskId) (status : Status) (now : Instant)
variable (change : StatusChange)
variable (fits : ledger.lastNotification.val + change.notices.length ≤ 4294967295)

/-- A change of status writes the task, the notifications, the achievers and the
reputations, and nothing else. -/
theorem applyChange_eq :
    ledger.applyChange id status now change fits =
      { ledger with
        tasks := changeTask id (fun task => Task.touch { task with status } now) ledger.tasks
        lastNotification := ⟨ledger.lastNotification.val + change.notices.length, fits⟩
        notifications := ledger.notifications ++ ledger.numbered change.notices now fits
        achievers := ledger.achievers ++ change.achiever.toList
        reputations := (ledger.storePromotion? change.promotion).reputations } := by
  rcases change with ⟨notices, achiever, promotion⟩
  cases achiever with
  | none =>
      rw [Option.toList_none, List.append_nil]
      cases promotion with
      | none => rfl
      | some promotion => rfl
  | some achiever =>
      cases promotion with
      | none => rfl
      | some promotion => rfl

theorem tasks_applyChange :
    (ledger.applyChange id status now change fits).tasks =
      changeTask id (fun task => Task.touch { task with status } now) ledger.tasks := by
  rw [applyChange_eq]

theorem lastTask_applyChange :
    (ledger.applyChange id status now change fits).lastTask = ledger.lastTask := by
  rw [applyChange_eq]

theorem ballots_applyChange :
    (ledger.applyChange id status now change fits).ballots = ledger.ballots := by
  rw [applyChange_eq]

theorem evaluations_applyChange :
    (ledger.applyChange id status now change fits).evaluations = ledger.evaluations := by
  rw [applyChange_eq]

theorem rules_applyChange :
    (ledger.applyChange id status now change fits).rules = ledger.rules := by
  rw [applyChange_eq]

theorem task?_applyChange (other : TaskId) :
    (ledger.applyChange id status now change fits).task? other =
      if other = id then (ledger.task? id).map fun task => Task.touch { task with status } now
      else ledger.task? other := by
  rw [← task?_updateTask ledger id other (fun task => Task.touch { task with status } now)
    fun _ => rfl]
  simp only [task?, tasks_applyChange, updateTask]

theorem status?_applyChange {task : Task} (found : ledger.task? id = some task) :
    (ledger.applyChange id status now change fits).status? id = some status := by
  rw [status?, task?_applyChange, if_pos rfl, found]
  rfl

theorem ballotsOn_applyChange (other : TaskId) :
    (ledger.applyChange id status now change fits).ballotsOn other = ledger.ballotsOn other := by
  simp only [ballotsOn, ballots_applyChange]

end Change

/-! ## Votes -/

theorem task?_clearBallots (ledger : Ledger) (id other : TaskId) :
    (ledger.clearBallots id).task? other = ledger.task? other := rfl

theorem ballotsOn_castBallot (ledger : Ledger) (ballot : Ballot) (id : TaskId) :
    (ledger.castBallot ballot).ballotsOn id =
      ledger.ballotsOn id ++ if ballot.task = id then [ballot] else [] := by
  by_cases same : ballot.task = id <;> simp [ballotsOn, castBallot, same]

theorem ballotsOn_clearBallots (ledger : Ledger) (id other : TaskId) :
    (ledger.clearBallots id).ballotsOn other =
      if other = id then [] else ledger.ballotsOn other := by
  simp only [ballotsOn, clearBallots, List.filter_filter]
  by_cases same : other = id
  · subst same
    simp [List.filter_eq_nil_iff]
  · simp only [same, ↓reduceIte]
    apply List.filter_congr
    intro ballot _
    by_cases voted : ballot.task = other
    · simp [voted, same]
    · simp [voted]

section Clearing

variable (ledger : Ledger) (condition : Prop) [Decidable condition] (id other : TaskId)

/-- What does not look at the votes is the same whether votes are dropped or not. -/
theorem read_ite_clearBallots {α : Type} (read : Ledger → α)
    (same : read (ledger.clearBallots id) = read ledger) :
    read (if condition then ledger.clearBallots id else ledger) = read ledger := by
  split
  · exact same
  · rfl

theorem task?_ite_clearBallots :
    (if condition then ledger.clearBallots id else ledger).task? other = ledger.task? other :=
  read_ite_clearBallots ledger condition id (fun reached => reached.task? other) rfl

theorem ballotsOn_ite_clearBallots :
    (if condition then ledger.clearBallots id else ledger).ballotsOn other =
      if condition ∧ other = id then [] else ledger.ballotsOn other := by
  by_cases cleared : condition
  · rw [if_pos cleared, ballotsOn_clearBallots]
    simp only [cleared, true_and]
  · rw [if_neg cleared, if_neg fun both => cleared both.1]

end Clearing

/-! ## Reputations -/

theorem lookup_putReputation (account other : Account) (reputation : Reputation)
    (reputations : List (Account × Reputation)) :
    (putReputation account reputation reputations).lookup other =
      if other = account then some reputation else reputations.lookup other := by
  induction reputations with
  | nil =>
      by_cases same : other = account
      · simp [putReputation, same]
      · have different : (other == account) = false := beq_false_of_ne same
        simp [putReputation, List.lookup_cons, same, different]
  | cons first rest ih =>
      obtain ⟨owner, kept⟩ := first
      by_cases same : other = owner
      · subst same
        by_cases replaced : other = account
        · simp [putReputation, replaced]
        · simp [putReputation, replaced]
      · have different : (other == owner) = false := beq_false_of_ne same
        by_cases replaced : owner = account
        · subst replaced
          simp [putReputation, List.lookup_cons, same, different]
        · simp [putReputation, List.lookup_cons, replaced, different, ih]

/-- Of a ledger only the reputations change when a promotion is stored. -/
theorem storePromotion?_eq (ledger : Ledger) (promotion : Option Promotion) :
    ledger.storePromotion? promotion =
      { ledger with reputations := (ledger.storePromotion? promotion).reputations } := by
  cases promotion with
  | none => rfl
  | some promotion => rfl

theorem reputations_storePromotion?_congr {ledger other : Ledger}
    (same : other.reputations = ledger.reputations) (promotion : Option Promotion) :
    (other.storePromotion? promotion).reputations =
      (ledger.storePromotion? promotion).reputations := by
  cases promotion with
  | none => exact same
  | some promotion => exact congrArg (putReputation promotion.account promotion.reputation) same

theorem reputation_storePromotion (ledger : Ledger) (promotion : Promotion) (account : Account) :
    (ledger.storePromotion promotion).reputation account =
      if account = promotion.account then promotion.reputation
      else ledger.reputation account := by
  rw [reputation, storePromotion, lookup_putReputation]
  split
  · rfl
  · rfl

end Ledger

end TaskBoard
