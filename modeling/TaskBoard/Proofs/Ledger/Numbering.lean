import TaskBoard.Proofs.Ledger.Contents

/-!
# Numbering of tasks

New tasks are numbered after the last number given, so the number of a new task
is greater than those of all tasks that are there.
-/

namespace TaskBoard

namespace Ledger

/-- No task has a greater number than the last one given. -/
def Numbered (ledger : Ledger) : Prop :=
  ∀ task ∈ ledger.tasks, task.id.toNat ≤ ledger.lastTask.val

theorem numbered_empty (rules : Rules) : (empty rules).Numbered := by
  intro task member
  cases member

theorem Numbered.addTask {ledger : Ledger} (numbered : ledger.Numbered) (task : Task) :
    (ledger.addTask task).Numbered := by
  intro other member
  simp only [Ledger.addTask]
  rcases mem_putTask member with isNew | isOld
  · subst isNew
    split
    · exact Nat.le_refl _
    · omega
  · have bound := numbered other isOld
    split
    · exact Nat.le_of_lt (Nat.lt_of_le_of_lt bound ‹_›)
    · exact bound

theorem numbered_ofSnapshot (rules : Rules) (snapshot : List Task) :
    (ofSnapshot rules snapshot).Numbered := by
  suffices kept : ∀ ledger : Ledger, ledger.Numbered → (snapshot.foldl addTask ledger).Numbered by
    exact kept (empty rules) (numbered_empty rules)
  induction snapshot with
  | nil => exact fun _ numbered => numbered
  | cons task rest ih => exact fun ledger numbered => ih _ (numbered.addTask task)

/-- All tasks that are there have smaller numbers than the next new one. -/
theorem Numbered.lt_nextTask {ledger : Ledger} (numbered : ledger.Numbered)
    (fits : ledger.lastTask.val + 1 ≤ 4294967295) :
    ∀ task ∈ ledger.tasks, task.id.toNat < (ledger.nextTask fits).toNat :=
  fun task member => Nat.lt_succ_of_le (numbered task member)

theorem Numbered.task?_nextTask {ledger : Ledger} (numbered : ledger.Numbered)
    (fits : ledger.lastTask.val + 1 ≤ 4294967295) :
    ledger.task? (ledger.nextTask fits) = none := by
  rw [task?, List.find?_eq_none]
  intro task member same
  have equal : task.id = ledger.nextTask fits := by simpa using same
  have smaller := numbered.lt_nextTask fits task member
  rw [equal] at smaller
  exact Nat.lt_irrefl _ smaller

theorem Numbered.addNew {ledger : Ledger} (numbered : ledger.Numbered)
    (fits : ledger.lastTask.val + 1 ≤ 4294967295) {task : Task}
    (isNext : task.id = ledger.nextTask fits) : (ledger.addNew fits task).Numbered := by
  intro other member
  rcases mem_putTask member with isNew | isOld
  · rw [isNew, isNext]
    exact Nat.le_refl _
  · exact Nat.le_of_lt (numbered.lt_nextTask fits other isOld)

theorem Numbered.updateTask {ledger : Ledger} (numbered : ledger.Numbered) (id : TaskId)
    (change : Task → Task) (keeps : ∀ task, (change task).id = task.id) :
    (ledger.updateTask id change).Numbered := by
  intro task member
  rw [Ledger.updateTask, changeTask, List.mem_map] at member
  obtain ⟨other, isOld, rfl⟩ := member
  have bound := numbered other isOld
  split
  · rw [keeps]
    exact bound
  · exact bound

theorem Numbered.applyChange {ledger : Ledger} (numbered : ledger.Numbered) (id : TaskId)
    (status : Status) (now : Instant) (change : StatusChange)
    (fits : ledger.lastNotification.val + change.notices.length ≤ 4294967295) :
    (ledger.applyChange id status now change fits).Numbered := by
  have updated := numbered.updateTask id (fun task => Task.touch { task with status } now)
    fun _ => rfl
  rw [Numbered, tasks_applyChange, lastTask_applyChange]
  exact updated

/-- Accepted calls keep the numbering. -/
theorem Numbered.of_accepted {now : Instant} {ledger after : Ledger} {command : Command}
    {receipt : Receipt (Option TaskId)}
    (accepted : Command.Accepted now ledger command receipt after)
    (numbered : ledger.Numbered) : after.Numbered := by
  cases accepted with
  | create titled online fits => exact numbered.addNew fits rfl
  | assign => exact numbered.updateTask _ _ fun _ => rfl
  | @changeStatus _ id status _ online found byParty allowed fits =>
      have changed := numbered.applyChange id status now _ fits
      dsimp only
      split
      · exact changed
      · exact changed
  | ballot => exact numbered
  | verdict online found pending notCreator notAssignee firstVote reached counted fits =>
      exact numbered.applyChange _ _ now _ fits
  | @evaluate _ _ _ _ _ promotion =>
      cases promotion with
      | none => exact numbered
      | some promotion => exact numbered
  | markRead => exact numbered

end Ledger

end TaskBoard
