import TaskBoard.Task.Priority
import TaskBoard.Task.Status

/-!
# Badges

Statuses and priorities are shown as coloured badges with a label, from which
the status or the priority can be recovered.
-/

namespace TaskBoard

/-- The colour of a badge. -/
inductive Color where
  | default
  | processing
  | success
  | error
  | warning
  | green
  | orange
  | red
  | magenta
  deriving DecidableEq, Repr

namespace Color

/-- All colours. -/
def all : List Color :=
  [default, processing, success, error, warning, green, orange, red, magenta]

/-- The name of a colour. -/
def name : Color → String
  | default => "default"
  | processing => "processing"
  | success => "success"
  | error => "error"
  | warning => "warning"
  | green => "green"
  | orange => "orange"
  | red => "red"
  | magenta => "magenta"

/-- Each colour with its name. -/
def choices : List (String × Color) := all.map fun color => (color.name, color)

end Color

/-- A label in a colour. -/
structure Badge where
  label : String
  color : Color
  deriving DecidableEq, Repr

/-- The badge of a status. -/
def Status.badge : Status → Badge
  | .pending => ⟨"Pending", .default⟩
  | .inProgress => ⟨"In Progress", .processing⟩
  | .completed => ⟨"Completed", .success⟩
  | .cancelled => ⟨"Cancelled", .error⟩
  | .pendingVerification => ⟨"Pending Verification", .warning⟩

/-- The badge of a priority. -/
def Priority.badge : Priority → Badge
  | .low => ⟨"Low", .green⟩
  | .medium => ⟨"Medium", .orange⟩
  | .high => ⟨"High", .red⟩
  | .urgent => ⟨"Urgent", .magenta⟩

/-- Whether a text is the label of a badge, up to ASCII case and white space around it. -/
def Badge.isLabeled (badge : Badge) (text : String) : Bool :=
  Text.eqIgnoringAsciiCase badge.label.toList (Text.trimChars text.toList)

/-- The status whose label is given. -/
def Status.ofLabel? (text : String) : Option Status :=
  Status.all.find? fun status => status.badge.isLabeled text

/-- The priority whose label is given. -/
def Priority.ofLabel? (text : String) : Option Priority :=
  Priority.all.find? fun priority => priority.badge.isLabeled text

end TaskBoard
