import Mathlib.Data.List.Basic
import TaskBoard.Search.Filters

/-!
# Filters as lists of conditions

A filter is taken apart into the conditions that it specifies (`Filters.conditions`).
A task is accepted if it meets all of them (`accepts_eq_all_meets`), so that the
conditions can be applied one by one in any order, and a filter that specifies more
conditions selects fewer tasks.
-/

namespace TaskBoard

/-- Whether a keyword is in the title or the description of a task regardless of case. -/
def Task.mentions (task : Task) (keyword : String) : Bool :=
  Filters.textMatches keyword task.title || Filters.textMatches keyword task.description

/-- What one field of a filter can specify. -/
inductive Condition where
  | keyword (wanted : String)
  | status (wanted : Status)
  | priority (wanted : Priority)
  | difficulty (range : Range Word8)
  | reward (range : Range Word64)
  | creator (wanted : String)
  | assignee (wanted : String)
  | deadline (range : Range Moment)
  | created (range : Range Moment)
  | unassigned
  | withDeadline
  deriving DecidableEq

namespace Condition

/-- The filter that specifies nothing else. -/
def alone : Condition → Filters
  | keyword wanted => { Filters.empty with keyword := some wanted }
  | status wanted => { Filters.empty with status := some wanted }
  | priority wanted => { Filters.empty with priority := some wanted }
  | difficulty range => { Filters.empty with difficultyRange := some range }
  | reward range => { Filters.empty with rewardRange := some range }
  | creator wanted => { Filters.empty with creator := some wanted }
  | assignee wanted => { Filters.empty with assignee := some wanted }
  | deadline range => { Filters.empty with deadlineRange := some range }
  | created range => { Filters.empty with createdRange := some range }
  | unassigned => { Filters.empty with unassignedOnly := true }
  | withDeadline => { Filters.empty with hasDeadline := true }

/-- Whether a task meets a condition. -/
def meets (task : Task) : Condition → Bool
  | keyword wanted => task.mentions wanted
  | status wanted => task.status == wanted
  | priority wanted => task.priority == wanted
  | difficulty range => range.contains task.difficulty.word
  | reward range => range.contains task.reward
  | creator wanted => Filters.textMatches wanted task.creator.name
  | assignee wanted => Filters.assigneeMatches wanted task.assignee
  | deadline range => Filters.deadlineMatches range task.deadline
  | created range => range.contains (Moment.ofInstant task.createdAt)
  | unassigned => !task.isAssigned
  | withDeadline => !task.deadline.isNone

theorem accepts_alone (condition : Condition) (task : Task) :
    condition.alone.accepts task = condition.meets task := by
  cases condition <;>
    simp [alone, meets, Filters.accepts, Filters.holds, Filters.empty, Task.mentions]

end Condition

namespace Filters

/-- The condition for a text, unless it is empty. -/
def givenText (condition : String → Condition) (wanted : Option String) : List Condition :=
  ((wanted.filter fun text => !text.isEmpty).map condition).toList

/-- The condition for a flag, if it is set. -/
def givenFlag (condition : Condition) (flag : Bool) : List Condition :=
  if flag then [condition] else []

/-- The conditions that a filter specifies. -/
def conditions (filters : Filters) : List Condition :=
  givenText .keyword filters.keyword ++
  (filters.status.map .status).toList ++
  (filters.priority.map .priority).toList ++
  (filters.difficultyRange.map .difficulty).toList ++
  (filters.rewardRange.map .reward).toList ++
  givenText .creator filters.creator ++
  givenText .assignee filters.assignee ++
  (filters.deadlineRange.map .deadline).toList ++
  (filters.createdRange.map .created).toList ++
  givenFlag .unassigned filters.unassignedOnly ++
  givenFlag .withDeadline filters.hasDeadline

/-- The empty text is in every text. -/
theorem textMatches_empty (text : String) : textMatches "" text = true := by
  rw [textMatches, String.toList_empty]
  rfl

theorem all_given {α : Type} (task : Task) (condition : α → Condition) (given : Option α) :
    ((given.map condition).toList.all fun condition => condition.meets task) =
      holds given fun wanted => (condition wanted).meets task := by
  cases given with
  | none => rfl
  | some wanted => exact Bool.and_true _

/-- A text that every task has may be left out if it is empty. -/
theorem all_givenText {task : Task} {condition : String → Condition}
    (met : (condition "").meets task = true) (given : Option String) :
    ((givenText condition given).all fun condition => condition.meets task) =
      holds given fun wanted => (condition wanted).meets task := by
  cases given with
  | none => rfl
  | some wanted =>
      rw [givenText, all_given]
      by_cases empty : wanted = ""
      · subst empty
        exact met.symm
      · rw [Option.filter_some_pos]
        simpa using empty

theorem all_givenFlag (task : Task) (condition : Condition) (flag : Bool) :
    ((givenFlag condition flag).all fun condition => condition.meets task) =
      (!flag || condition.meets task) := by
  cases flag with
  | false => rfl
  | true => exact Bool.and_true _

/-- A filter accepts the tasks that meet all its conditions. -/
theorem accepts_eq_all_meets (filters : Filters) (task : Task) :
    filters.accepts task = filters.conditions.all fun condition => condition.meets task := by
  -- What an empty text would test is true, so that leaving it out changes nothing.
  have mentioned : (Condition.keyword "").meets task = true := by
    rw [Condition.meets, Task.mentions, textMatches_empty, Bool.true_or]
  have created : (Condition.creator "").meets task = true := textMatches_empty _
  have assigned : (Condition.assignee "").meets task = true := rfl
  simp only [conditions, List.all_append, all_given, all_givenText mentioned, all_givenText created,
    all_givenText assigned, all_givenFlag]
  simp only [accepts, Condition.meets, Task.mentions, Bool.not_and]

/-- Conditions applied one after the other select the tasks that meet all of them. -/
theorem foldl_select_alone (order : List Condition) (tasks : List Task) :
    (order.foldl (fun selected condition => condition.alone.select selected) tasks) =
      tasks.filter fun task => order.all fun condition => condition.meets task := by
  induction order generalizing tasks with
  | nil => exact (List.filter_true tasks).symm
  | cons condition rest ih =>
      rw [List.foldl_cons, ih, select, List.filter_filter]
      apply List.filter_congr
      intro task _
      rw [List.all_cons, Condition.accepts_alone, Bool.and_comm]

theorem select_eq_filter_conditions (filters : Filters) (tasks : List Task) :
    filters.select tasks =
      tasks.filter fun task => filters.conditions.all fun condition => condition.meets task :=
  List.filter_congr fun task _ => filters.accepts_eq_all_meets task

/-- A filter with further conditions accepts no further task. -/
theorem accepts_of_conditions_subset {filters further : Filters}
    (specified : filters.conditions ⊆ further.conditions) {task : Task}
    (accepted : further.accepts task = true) : filters.accepts task = true := by
  rw [accepts_eq_all_meets, List.all_eq_true] at accepted ⊢
  exact fun condition member => accepted condition (specified member)

end Filters

/-- A filter is as good as its conditions applied one after the other, in any order.
It keeps the order of the tasks, and those that it accepts are those that it selects.
Therefore no further condition adds a task, and filtering twice is filtering once. -/
theorem select_by_conditions (filters : Filters) (tasks : List Task) :
    (∀ order : List Condition, order.Perm filters.conditions →
      order.foldl (fun selected condition => condition.alone.select selected) tasks =
        filters.select tasks) ∧
    (filters.select tasks).Sublist tasks ∧
    (∀ task, task ∈ filters.select tasks ↔ task ∈ tasks ∧ filters.accepts task = true) ∧
    (∀ further : Filters, filters.conditions ⊆ further.conditions →
      (further.select tasks).Sublist (filters.select tasks)) ∧
    filters.select (filters.select tasks) = filters.select tasks := by
  refine ⟨?_, List.filter_sublist, fun task => List.mem_filter, ?_, ?_⟩
  · intro order permuted
    rw [Filters.foldl_select_alone, Filters.select_eq_filter_conditions]
    exact List.filter_congr fun task _ => permuted.all_eq
  · intro further specified
    exact List.monotone_filter_right tasks fun task =>
      Filters.accepts_of_conditions_subset specified
  · rw [Filters.select, Filters.select, List.filter_filter]
    simp only [Bool.and_self]

/-- Three conditions, an empty text beside them, and a fourth one. -/
theorem select_by_conditions_pending :
    let filters : Filters := { Filters.empty with
      keyword := some "view", status := some .pending, creator := some "", unassignedOnly := true }
    let further : Filters := { filters with priority := some .high }
    let tasks : List Task := [.fresh ⟨1, by decide⟩ "Review" ⟨"alice"⟩ .epoch,
      .fresh ⟨2, by decide⟩ "Preview" ⟨"bob"⟩ .epoch]
    let order : List Condition := [.unassigned, .status .pending, .keyword "view"]
    order.Perm filters.conditions ∧ filters.conditions ⊆ further.conditions ∧
      order.foldl (fun selected condition => condition.alone.select selected) tasks =
        filters.select tasks ∧
      (further.select tasks).Sublist (filters.select tasks) := by
  intro filters further tasks order
  have permuted : order.Perm filters.conditions := List.reverse_perm filters.conditions
  have specified : filters.conditions ⊆ further.conditions := by decide
  have laws := select_by_conditions filters tasks
  exact ⟨permuted, specified, laws.1 order permuted, laws.2.2.2.1 further specified⟩

end TaskBoard
