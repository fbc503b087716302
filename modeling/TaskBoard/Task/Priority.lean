import TaskBoard.Argument
import TaskBoard.Text.Loose

/-!
# The priority of a task

Priorities are ordered from low to urgent by their ordinals, which are also the
codes under which they are stored.
-/

namespace TaskBoard

/-- The priority of a task. -/
inductive Priority where
  | low
  | medium
  | high
  | urgent
  deriving DecidableEq, Repr

namespace Priority

/-- All priorities in ascending order. -/
def all : List Priority := [low, medium, high, urgent]

/-- The place of a priority in the order. -/
def ordinal : Priority → Nat
  | low => 1
  | medium => 2
  | high => 3
  | urgent => 4

/-- The priority at a place in the order. -/
def ofOrdinal? (ordinal : Nat) : Option Priority :=
  all.find? fun priority => priority.ordinal == ordinal

/-- The name of a priority. -/
def name : Priority → String
  | low => "Low"
  | medium => "Medium"
  | high => "High"
  | urgent => "Urgent"

/-- Each priority with its name. -/
def choices : List (String × Priority) := all.map fun priority => (priority.name, priority)

/-- The words that denote a priority, in the form of a loose name. -/
def words : List (String × Priority) :=
  [("low", low), ("medium", medium), ("high", high), ("urgent", urgent)]

/-- The priority that a loosely written name denotes. -/
def ofText (text : String) : Except ArgumentError Priority :=
  match words.lookup (Text.looseName text) with
  | some priority => .ok priority
  | none => .error (.unknownPriority text)

@[simp] theorem mem_all (priority : Priority) : priority ∈ all := by cases priority <;> decide

@[simp] theorem ofOrdinal?_ordinal (priority : Priority) :
    ofOrdinal? priority.ordinal = some priority := by
  cases priority <;> decide

end Priority

end TaskBoard
