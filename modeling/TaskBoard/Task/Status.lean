import TaskBoard.Argument
import TaskBoard.Text.Loose

/-!
# The status of a task

A task is pending, in progress, completed, cancelled or awaiting verification.
`Status.next` is the table of the changes that the ledger allows; completed and
cancelled tasks do not change any more.
-/

namespace TaskBoard

/-- The status of a task. -/
inductive Status where
  | pending
  | inProgress
  | completed
  | cancelled
  | pendingVerification
  deriving DecidableEq, Repr

namespace Status

/-- All statuses, in the order of their codes. -/
def all : List Status := [pending, inProgress, completed, cancelled, pendingVerification]

/-- The code under which a status is stored. -/
def code : Status → Nat
  | pending => 0
  | inProgress => 1
  | completed => 2
  | cancelled => 3
  | pendingVerification => 4

/-- The status that is stored under a code. -/
def ofCode? (code : Nat) : Option Status := all.find? fun status => status.code == code

/-- The name of a status. -/
def name : Status → String
  | pending => "Pending"
  | inProgress => "InProgress"
  | completed => "Completed"
  | cancelled => "Cancelled"
  | pendingVerification => "PendingVerification"

/-- Each status with its name. -/
def choices : List (String × Status) := all.map fun status => (status.name, status)

/-- Whether a task of this status is finished. -/
def isFinal : Status → Bool
  | completed => true
  | cancelled => true
  | _ => false

/-- The statuses that a task of this status may change to. -/
def next : Status → List Status
  | pending => [inProgress, completed, cancelled, pendingVerification]
  | inProgress => [completed, cancelled, pendingVerification]
  | pendingVerification => [completed, inProgress]
  | completed => []
  | cancelled => []

/-- Whether a task may change from one status to another. -/
def allows (status target : Status) : Bool := status.next.contains target

/-- The words that denote a status, in the form of a loose name. -/
def words : List (String × Status) :=
  [("pending", pending), ("inprogress", inProgress), ("completed", completed),
    ("cancelled", cancelled), ("canceled", cancelled),
    ("pendingverification", pendingVerification)]

/-- The status that a loosely written name denotes. -/
def ofText (text : String) : Except ArgumentError Status :=
  match words.lookup (Text.looseName text) with
  | some status => .ok status
  | none => .error (.unknownStatus text)

@[simp] theorem mem_all (status : Status) : status ∈ all := by cases status <;> decide

@[simp] theorem ofCode?_code (status : Status) : ofCode? status.code = some status := by
  cases status <;> decide

/-- The final statuses are those without a next one. -/
theorem isFinal_iff_next_eq_nil {status : Status} : status.isFinal = true ↔ status.next = [] := by
  cases status <;> decide

end Status

end TaskBoard
