import TaskBoard.Search.Needle
import TaskBoard.Task.Basic
import TaskBoard.Time.Moment

/-!
# Filters

A filter is a conjunction of optional conditions on a task.  A condition that is
not given, an empty text and a flag that is not set restrict nothing.
-/

namespace TaskBoard

/-- The values from a least to a greatest one, both included; no value at all
where they are inverted. -/
structure Range (α : Type) where
  min : α
  max : α
  deriving DecidableEq

namespace Range

variable {α : Type} [LE α] [DecidableLE α]

/-- Whether a value lies in the range. -/
def contains (range : Range α) (value : α) : Bool :=
  decide (range.min ≤ value) && decide (value ≤ range.max)

/-- Whether the least value lies above the greatest one. -/
def isInverted (range : Range α) : Bool := !decide (range.min ≤ range.max)

end Range

namespace Bounded

variable {limit : Nat}

instance : LE (Bounded limit) := ⟨fun left right => left.val ≤ right.val⟩

instance (left right : Bounded limit) : Decidable (left ≤ right) :=
  inferInstanceAs (Decidable (left.val ≤ right.val))

theorem le_def {left right : Bounded limit} : left ≤ right ↔ left.val ≤ right.val := Iff.rfl

end Bounded

/-- Conditions on a task, all of which must hold. -/
structure Filters where
  /-- A text in the title or the description. -/
  keyword : Option String
  status : Option Status
  priority : Option Priority
  difficultyRange : Option (Range Word8)
  rewardRange : Option (Range Word64)
  /-- A text in the name of the creator. -/
  creator : Option String
  /-- A text in the name of the assignee; there must be one. -/
  assignee : Option String
  /-- A range for the deadline; there must be one. -/
  deadlineRange : Option (Range Moment)
  createdRange : Option (Range Moment)
  unassignedOnly : Bool
  hasDeadline : Bool
  deriving DecidableEq

namespace Filters

/-- No conditions. -/
def empty : Filters where
  keyword := none
  status := none
  priority := none
  difficultyRange := none
  rewardRange := none
  creator := none
  assignee := none
  deadlineRange := none
  createdRange := none
  unassignedOnly := false
  hasDeadline := false

instance : Inhabited Filters := ⟨empty⟩

/-- Whether a given condition holds; one that is not given always does. -/
def holds {α : Type} (condition : Option α) (test : α → Bool) : Bool :=
  match condition with
  | none => true
  | some wanted => test wanted

/-- Whether a text contains a wanted one regardless of case. -/
def textMatches (wanted text : String) : Bool := containsIgnoringCase text.toList wanted.toList

/-- Whether a wanted text is in the name of the assignee. -/
def assigneeMatches (wanted : String) (assignee : Option Account) : Bool :=
  if wanted.isEmpty then true
  else
    match assignee with
    | none => false
    | some account => textMatches wanted account.name

/-- Whether the deadline lies in a range. -/
def deadlineMatches (range : Range Moment) (deadline : Option Instant) : Bool :=
  match deadline with
  | none => false
  | some instant => range.contains (Moment.ofInstant instant)

/-- Whether a task meets every condition. -/
def accepts (filters : Filters) (task : Task) : Bool :=
  holds filters.keyword (fun wanted =>
    textMatches wanted task.title || textMatches wanted task.description) &&
  holds filters.status (fun wanted => task.status == wanted) &&
  holds filters.priority (fun wanted => task.priority == wanted) &&
  holds filters.difficultyRange (fun range => range.contains task.difficulty.word) &&
  holds filters.rewardRange (fun range => range.contains task.reward) &&
  holds filters.creator (fun wanted => textMatches wanted task.creator.name) &&
  holds filters.assignee (fun wanted => assigneeMatches wanted task.assignee) &&
  holds filters.deadlineRange (fun range => deadlineMatches range task.deadline) &&
  holds filters.createdRange (fun range => range.contains (Moment.ofInstant task.createdAt)) &&
  !(filters.unassignedOnly && task.isAssigned) &&
  !(filters.hasDeadline && task.deadline.isNone)

/-- The tasks that meet every condition, in their order. -/
def select (filters : Filters) (tasks : List Task) : List Task := tasks.filter filters.accepts

end Filters

end TaskBoard
