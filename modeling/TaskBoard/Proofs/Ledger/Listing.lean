import Mathlib.Data.List.Nodup
import TaskBoard.Proofs.Ledger.History

/-!
# The listing of tasks

The ledger lists its tasks by strictly ascending identifiers.  So no two tasks share
an identifier, and a task is listed exactly if it is found under its identifier.
-/

namespace TaskBoard

/-- Among items with distinct keys, an item is found under a key exactly if it is there
and has the key. -/
theorem find?_key_eq_some_iff {α κ : Type} [DecidableEq κ] {key : α → κ} {items : List α}
    (distinct : (items.map key).Nodup) {item : α} {wanted : κ} :
    items.find? (fun other => key other == wanted) = some item ↔
      item ∈ items ∧ key item = wanted := by
  constructor
  · intro found
    have satisfied := List.find?_some found
    exact ⟨List.mem_of_find?_eq_some found, by simpa using satisfied⟩
  · rintro ⟨member, rfl⟩
    cases found : items.find? fun other => key other == key item with
    | none =>
        have absent := List.find?_eq_none.mp found item member
        exact absurd (beq_self_eq_true (key item)) absent
    | some other =>
        have satisfied := List.find?_some found
        have sameKey : key other = key item := by simpa using satisfied
        have isOther := List.mem_of_find?_eq_some found
        rw [List.inj_on_of_nodup_map distinct isOther member sameKey]

namespace Ledger

/-- Each of the tasks has a smaller identifier than those behind it. -/
def Ascending (tasks : List Task) : Prop :=
  tasks.Pairwise fun left right => left.id.toNat < right.id.toNat

namespace Ascending

/-- The first task has another identifier than those behind it. -/
theorem id_ne {first other : Task} {rest : List Task} (ascending : Ascending (first :: rest))
    (member : other ∈ rest) : first.id ≠ other.id := by
  intro same
  have smaller := (List.pairwise_cons.mp ascending).1 other member
  rw [same] at smaller
  exact Nat.lt_irrefl _ smaller

theorem nodup {tasks : List Task} (ascending : Ascending tasks) : (tasks.map Task.id).Nodup := by
  induction tasks with
  | nil => exact List.nodup_nil
  | cons first rest ih =>
      rw [List.map_cons, List.nodup_cons]
      refine ⟨?_, ih (List.pairwise_cons.mp ascending).2⟩
      rw [List.mem_map]
      rintro ⟨other, member, same⟩
      exact ascending.id_ne member same.symm

/-- Tasks are put where their identifiers belong. -/
theorem putTask {tasks : List Task} (ascending : Ascending tasks) (task : Task) :
    Ascending (putTask task tasks) := by
  induction tasks with
  | nil => exact List.pairwise_singleton _ task
  | cons first rest ih =>
      obtain ⟨least, others⟩ := List.pairwise_cons.mp ascending
      rw [Ledger.putTask]
      split
      · next before =>
        refine .cons ?_ ascending
        intro other member
        rcases List.mem_cons.mp member with rfl | inRest
        · exact before
        · exact Nat.lt_trans before (least other inRest)
      · next notBefore =>
        split
        · next same =>
          rw [← same] at least
          exact .cons least others
        · next different =>
          refine .cons ?_ (ih others)
          intro other member
          rcases mem_putTask member with rfl | isOld
          · have distinct : first.id.toNat ≠ other.id.toNat := fun equal =>
              different (Id.toNat_inj.mp equal.symm)
            omega
          · exact least other isOld

/-- A change that keeps the identifiers of tasks keeps their order. -/
theorem changeTask {tasks : List Task} (ascending : Ascending tasks) (id : TaskId)
    {change : Task → Task} (keeps : ∀ task, (change task).id = task.id) :
    Ascending (changeTask id change tasks) := by
  have sameId (task : Task) : (if task.id = id then change task else task).id = task.id := by
    split
    · exact keeps task
    · rfl
  rw [Ascending, Ledger.changeTask, List.pairwise_map]
  simp only [sameId]
  exact ascending

/-- What is collected from the tasks is what one of them gives, if no other gives anything. -/
theorem filterMap_eq_toList {α : Type} {tasks : List Task} (ascending : Ascending tasks)
    {task : Task} (member : task ∈ tasks) {collect : Task → Option α}
    (others : ∀ other ∈ tasks, other.id ≠ task.id → collect other = none) :
    tasks.filterMap collect = (collect task).toList := by
  induction tasks with
  | nil => cases member
  | cons first rest ih =>
      rcases List.mem_cons.mp member with rfl | inRest
      · have nothing : rest.filterMap collect = [] := by
          rw [List.filterMap_eq_nil_iff]
          intro other isOther
          exact others other (List.mem_cons_of_mem _ isOther) (ascending.id_ne isOther).symm
        rw [List.filterMap_cons, nothing]
        cases collect task with
        | none => rfl
        | some value => rfl
      · rw [List.filterMap_cons_none
          (others first List.mem_cons_self (ascending.id_ne inRest))]
        exact ih (List.pairwise_cons.mp ascending).2 inRest fun other isOther =>
          others other (List.mem_cons_of_mem _ isOther)

end Ascending

theorem ascending_ofSnapshot (rules : Rules) (snapshot : List Task) :
    Ascending (ofSnapshot rules snapshot).tasks := by
  suffices kept : ∀ ledger : Ledger, Ascending ledger.tasks →
      Ascending (snapshot.foldl addTask ledger).tasks by
    exact kept (empty rules) .nil
  induction snapshot with
  | nil => exact fun _ ascending => ascending
  | cons task rest ih => exact fun ledger ascending => ih _ (ascending.putTask task)

/-- An accepted call leaves the tasks as they are, adds one, or changes one without
touching its identifier. -/
theorem tasks_of_accepted {now : Instant} {ledger after : Ledger} {command : Command}
    {receipt : Receipt (Option TaskId)}
    (accepted : Command.Accepted now ledger command receipt after) :
    after.tasks = ledger.tasks ∨
      (∃ task, after.tasks = putTask task ledger.tasks) ∨
      ∃ id change, after.tasks = changeTask id change ledger.tasks ∧
        ∀ task, (change task).id = task.id := by
  cases accepted with
  | create => exact .inr (.inl ⟨_, rfl⟩)
  | assign => exact .inr (.inr ⟨_, _, rfl, fun _ => rfl⟩)
  | @changeStatus signer id status task online found byParty allowed fits =>
      have changed := tasks_applyChange ledger id status now _ fits
      exact .inr (.inr ⟨_, _, (read_ite_clearBallots _ _ _ tasks rfl).trans changed, fun _ => rfl⟩)
  | ballot => exact .inl rfl
  | verdict online found pending notCreator notAssignee firstVote reached counted fits =>
      exact .inr (.inr ⟨_, _, tasks_applyChange ledger _ _ now _ fits, fun _ => rfl⟩)
  | @evaluate _ _ _ _ _ promotion =>
      cases promotion with
      | none => exact .inl rfl
      | some promotion => exact .inl rfl
  | markRead => exact .inl rfl

theorem Ascending.of_accepted {now : Instant} {ledger after : Ledger} {command : Command}
    {receipt : Receipt (Option TaskId)}
    (accepted : Command.Accepted now ledger command receipt after)
    (ascending : Ascending ledger.tasks) : Ascending after.tasks := by
  rcases tasks_of_accepted accepted with same | ⟨task, added⟩ | ⟨id, change, changed, keeps⟩
  · rw [same]
    exact ascending
  · rw [added]
    exact ascending.putTask task
  · rw [changed]
    exact ascending.changeTask id keeps

/-- A task is listed exactly if it is found under its identifier. -/
theorem task?_eq_some_iff {ledger : Ledger} (ascending : Ascending ledger.tasks) {id : TaskId}
    {task : Task} : ledger.task? id = some task ↔ task ∈ ledger.tasks ∧ task.id = id :=
  find?_key_eq_some_iff ascending.nodup

end Ledger

namespace History

theorem ascending (history : History) : Ledger.Ascending history.ledger.tasks :=
  history.invariant Ledger.ascending_ofSnapshot (fun ascending => ascending)
    Ledger.Ascending.of_accepted

end History

end TaskBoard
