import TaskBoard.Ledger.Transaction

/-!
# Execution of transactions

A transaction is a chain of small steps.  This module says what each step
answers and which ledger it leaves, so that whole transactions can be taken
apart without opening the monad that they are written in.
-/

namespace TaskBoard

namespace Transaction

variable {α β : Type}

@[simp] theorem on_pure (value : α) (ledger : Ledger) :
    (pure value : Transaction α).on ledger = (.ok value, ledger) := rfl

@[simp] theorem on_throw (refusal : Refusal) (ledger : Ledger) :
    (throw refusal : Transaction α).on ledger = (.error refusal, ledger) := rfl

@[simp] theorem on_get (ledger : Ledger) :
    (get : Transaction Ledger).on ledger = (.ok ledger, ledger) := rfl

@[simp] theorem on_modify (write : Ledger → Ledger) (ledger : Ledger) :
    (modify write : Transaction PUnit).on ledger = (.ok (), write ledger) := rfl

/-- A chain goes on from the ledger that its first part leaves, and ends there if
the first part is refused. -/
theorem on_bind (first : Transaction α) (rest : α → Transaction β) (ledger : Ledger) :
    (first >>= rest).on ledger =
      match first.on ledger with
      | (.ok value, reached) => (rest value).on reached
      | (.error refusal, reached) => (.error refusal, reached) := by
  change (ExceptT.bindCont rest (first.run.run ledger).1).run (first.run.run ledger).2 = _
  rcases outcome : first.on ledger with ⟨_ | value, reached⟩
  all_goals
    have executed : first.run.run ledger = _ := outcome
    rw [executed]
    rfl

/-- A chain is refused by its first part, or by its second part after the first. -/
theorem on_bind_eq_error {first : Transaction α} {rest : α → Transaction β}
    {ledger after : Ledger} {refusal : Refusal} :
    (first >>= rest).on ledger = (.error refusal, after) ↔
      first.on ledger = (.error refusal, after) ∨
        ∃ value reached, first.on ledger = (.ok value, reached) ∧
          (rest value).on reached = (.error refusal, after) := by
  rw [on_bind]
  rcases outcome : first.on ledger with ⟨refusal | value, reached⟩
  · simp
  · constructor
    · intro refused
      exact .inr ⟨value, reached, rfl, refused⟩
    · rintro (same | ⟨_, _, same, refused⟩)
      · cases same
      · cases same
        exact refused

/-! ## Steps in front of the rest of a chain -/

theorem on_get_bind (rest : Ledger → Transaction β) (ledger : Ledger) :
    ((get : Transaction Ledger) >>= rest).on ledger = (rest ledger).on ledger := by
  rw [on_bind, on_get]

theorem on_modify_bind (write : Ledger → Ledger) (rest : PUnit → Transaction β)
    (ledger : Ledger) :
    ((modify write : Transaction PUnit) >>= rest).on ledger = (rest ()).on (write ledger) := by
  rw [on_bind, on_modify]

theorem on_requireOnline (ledger : Ledger) :
    requireOnline.on ledger =
      (if ledger.offline then .error .disconnected else .ok (), ledger) := by
  rw [requireOnline, on_get_bind]
  cases ledger.offline
  · rfl
  · rfl

theorem on_require (condition : Bool) (refusal : Refusal) (ledger : Ledger) :
    (require condition refusal).on ledger =
      (if condition then .ok () else .error refusal, ledger) := by
  cases condition
  · rfl
  · rfl

theorem on_findTask (id : TaskId) (ledger : Ledger) :
    (findTask id).on ledger =
      (match ledger.task? id with
        | some task => .ok task
        | none => .error (.taskNotFound id), ledger) := by
  rw [findTask, on_get_bind]
  cases ledger.task? id with
  | none => rfl
  | some task => rfl

section Succeeding

variable {ledger after : Ledger} {answer : β}

theorem on_requireOnline_bind_eq_ok {rest : Unit → Transaction β} :
    (requireOnline >>= rest).on ledger = (.ok answer, after) ↔
      ledger.offline = false ∧ (rest ()).on ledger = (.ok answer, after) := by
  rw [on_bind, on_requireOnline]
  cases ledger.offline
  · simp
  · simp

theorem on_require_bind_eq_ok {condition : Bool} {refusal : Refusal}
    {rest : Unit → Transaction β} :
    (require condition refusal >>= rest).on ledger = (.ok answer, after) ↔
      condition = true ∧ (rest ()).on ledger = (.ok answer, after) := by
  rw [on_bind, on_require]
  cases condition
  · simp
  · simp

theorem on_findTask_bind_eq_ok {id : TaskId} {rest : Task → Transaction β} :
    (findTask id >>= rest).on ledger = (.ok answer, after) ↔
      ∃ task, ledger.task? id = some task ∧ (rest task).on ledger = (.ok answer, after) := by
  rw [on_bind, on_findTask]
  cases ledger.task? id with
  | none => simp
  | some task => simp

end Succeeding

end Transaction

namespace Command

/-- The events that a call publishes, which are those of its receipt if it is accepted. -/
def published (command : Command) (now : Instant) (ledger : Ledger) : List Event :=
  match (command.run now ledger).1 with
  | .ok receipt => receipt.events
  | .error _ => []

theorem published_of_run_eq_ok {command : Command} {now : Instant} {ledger after : Ledger}
    {receipt : Receipt (Option TaskId)}
    (succeeded : command.run now ledger = (.ok receipt, after)) :
    command.published now ledger = receipt.events := by
  rw [published, succeeded]

theorem published_of_run_eq_error {command : Command} {now : Instant} {ledger after : Ledger}
    {refusal : Refusal} (refused : command.run now ledger = (.error refusal, after)) :
    command.published now ledger = [] := by
  rw [published, refused]

end Command

end TaskBoard
