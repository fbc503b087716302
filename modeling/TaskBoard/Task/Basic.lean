import TaskBoard.Task.Deadline
import TaskBoard.Task.Id
import TaskBoard.Task.Priority
import TaskBoard.Task.Status

/-!
# Tasks

A task is a unit of work with a creator, at most one assignee, a reward and
perhaps a deadline.  A draft holds what the creator of a task decides.
-/

namespace TaskBoard

/-- The difficulty of a task, from one to ten. -/
structure Difficulty where
  level : Nat
  least : 1 ≤ level
  greatest : level ≤ 10
  deriving DecidableEq

namespace Difficulty

/-- The difficulty of a level, if it is from one to ten. -/
def ofLevel (level : Word8) : Except ArgumentError Difficulty :=
  if least : 1 ≤ level.val then
    if greatest : level.val ≤ 10 then .ok ⟨level.val, least, greatest⟩
    else .error (.difficulty level)
  else .error (.difficulty level)

/-- The level as a number of eight bits. -/
def word (difficulty : Difficulty) : Word8 :=
  ⟨difficulty.level, Nat.le_trans difficulty.greatest (by decide)⟩

@[simp] theorem ofLevel_word (difficulty : Difficulty) : ofLevel difficulty.word = .ok difficulty := by
  simp [ofLevel, word, difficulty.least, difficulty.greatest]

/-- The least difficulty. -/
def easiest : Difficulty := ⟨1, by decide, by decide⟩

instance : Inhabited Difficulty := ⟨easiest⟩

/-- The difficulty out of ten. -/
def label (difficulty : Difficulty) : String := toString difficulty.level ++ "/10"

end Difficulty

/-- A task of the board. -/
structure Task where
  id : TaskId
  title : String
  description : String
  creator : Account
  assignee : Option Account
  status : Status
  priority : Priority
  difficulty : Difficulty
  reward : Word64
  deadline : Option Instant
  createdAt : Instant
  updatedAt : Instant
  deriving DecidableEq

namespace Task

/-- A new task: pending, of medium priority and least difficulty, without reward,
assignee and deadline. -/
def fresh (id : TaskId) (title : String) (creator : Account) (createdAt : Instant) : Task where
  id
  title
  description := ""
  creator
  assignee := none
  status := .pending
  priority := .medium
  difficulty := .easiest
  reward := 0
  deadline := none
  createdAt
  updatedAt := createdAt

/-- The task updated at an instant, or when it was created if that is later. -/
def touch (task : Task) (now : Instant) : Task :=
  { task with updatedAt := now.latest task.createdAt }

/-- Whether somebody is assigned. -/
def isAssigned (task : Task) : Bool := task.assignee.isSome

/-- Whether the task is finished. -/
def isFinal (task : Task) : Bool := task.status.isFinal

/-- Whether the deadline has come. -/
def isExpired (task : Task) (now : Instant) : Bool :=
  match task.deadline with
  | none => false
  | some deadline => decide (deadline ≤ now)

/-- Whether the deadline has not come and comes within a number of milliseconds.
There is no answer if that span is beyond the longest one, or if a deadline is
to come and the span ends outside the calendar. -/
def isExpiringSoon? (task : Task) (now : Instant) (window : Int) : Option Bool := do
  let span ← Span.ofMillis? window
  Deadline.isExpiringSoon? (task.deadline.map .ofInstant) (.ofInstant now) span

end Task

/-- What the creator of a task decides about it. -/
structure Draft where
  title : String
  description : String
  priority : Priority
  difficulty : Difficulty
  reward : Word64
  deadline : Option Instant
  deriving DecidableEq

namespace Draft

/-- A draft with nothing but a title. -/
def titled (title : String) : Draft where
  title
  description := ""
  priority := .medium
  difficulty := .easiest
  reward := 0
  deadline := none

/-- The task that a draft becomes. -/
def toTask (draft : Draft) (id : TaskId) (creator : Account) (createdAt : Instant) : Task :=
  { Task.fresh id draft.title creator createdAt with
    description := draft.description
    priority := draft.priority
    difficulty := draft.difficulty
    reward := draft.reward
    deadline := draft.deadline }

end Draft

end TaskBoard
