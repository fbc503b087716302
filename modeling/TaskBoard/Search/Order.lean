import TaskBoard.Task.Basic
import TaskBoard.Text.Blank
import TaskBoard.Text.Lowercase

/-!
# Sorting tasks

Tasks are sorted by the value of a key in one direction.  Tasks of equal value
are sorted by ascending identifier in both directions, and tasks with equal
identifiers keep their order.
-/

namespace TaskBoard

/-- What tasks are sorted by. -/
inductive SortKey where
  | createdAt
  | updatedAt
  | deadline
  | reward
  | difficulty
  | priority
  deriving DecidableEq, Repr

namespace SortKey

/-- All keys. -/
def all : List SortKey := [createdAt, updatedAt, deadline, reward, difficulty, priority]

/-- The name of a key. -/
def name : SortKey → String
  | createdAt => "created_at"
  | updatedAt => "updated_at"
  | deadline => "deadline"
  | reward => "reward"
  | difficulty => "difficulty"
  | priority => "priority"

/-- Each key with its name. -/
def choices : List (String × SortKey) := all.map fun key => (key.name, key)

/-- The key whose name is given, with any case and with white space around it. -/
def ofText (text : String) : Except ArgumentError SortKey :=
  let wanted := Text.trim text
  match all.find? fun key => Text.eqIgnoringAsciiCase key.name.toList wanted.toList with
  | some key => .ok key
  | none => .error (.unknownSortKey wanted)

@[simp] theorem mem_all (key : SortKey) : key ∈ all := by cases key <;> decide

/-- The value of a task that a key compares; a missing deadline counts as the
beginning of the epoch. -/
def value (key : SortKey) (task : Task) : Int :=
  match key with
  | createdAt => task.createdAt.millis
  | updatedAt => task.updatedAt.millis
  | deadline => (task.deadline.map Instant.millis).getD 0
  | reward => task.reward.val
  | difficulty => task.difficulty.level
  | priority => task.priority.ordinal

end SortKey

/-- What tasks are sorted by, and in which direction. -/
structure SortOrder where
  key : SortKey
  descending : Bool
  deriving DecidableEq, Repr

namespace SortOrder

/-- The newest tasks first. -/
def newestFirst : SortOrder := ⟨.createdAt, true⟩

instance : Inhabited SortOrder := ⟨newestFirst⟩

/-- How two tasks are ordered. -/
def compare (order : SortOrder) (left right : Task) : Ordering :=
  let primary := Ord.compare (order.key.value left) (order.key.value right)
  (if order.descending then primary.swap else primary).then
    (Ord.compare left.id.toNat right.id.toNat)

/-- Whether the first task may stand before the second. -/
def le (order : SortOrder) (left right : Task) : Bool := (order.compare left right).isLE

/-- The tasks in order. -/
def sort (order : SortOrder) (tasks : List Task) : List Task := tasks.mergeSort order.le

end SortOrder

end TaskBoard
