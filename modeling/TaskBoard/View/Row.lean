import TaskBoard.Search.Page
import TaskBoard.View.Badge
import TaskBoard.View.Highlight

/-!
# Rows

A row shows a task with the keyword highlighted in its title and in the
beginning of its description.  A page of tasks is shown as rows.
-/

namespace TaskBoard

/-- The first characters of a text, up to a number, and whether any were left out. -/
def preview (text : List Char) (limit : Nat) : List Char × Bool :=
  (text.take limit, decide (limit < text.length))

/-- A task as it is shown in a list. -/
structure Row where
  id : TaskId
  title : List Segment
  description : List Segment
  /-- Whether an ellipsis follows the description. -/
  truncated : Bool
  status : Badge
  priority : Badge
  reward : Word64
  difficulty : String
  creator : Account
  assignee : Option Account
  deriving DecidableEq

namespace Row

/-- What follows a description that was cut. -/
def ellipsis : String := "..."

/-- The row of a task. -/
def ofTask (task : Task) (keyword : String) (previewLength : Nat) : Row :=
  let (shown, truncated) := preview task.description.toList previewLength
  { id := task.id
    title := highlight task.title.toList keyword.toList
    description := highlight shown keyword.toList
    truncated
    status := task.status.badge
    priority := task.priority.badge
    reward := task.reward
    difficulty := task.difficulty.label
    creator := task.creator
    assignee := task.assignee }

/-- The description of a row as plain text, with the ellipsis if it was cut. -/
def descriptionText (row : Row) : String :=
  String.ofList (Segment.joined row.description) ++ (if row.truncated then ellipsis else "")

end Row

/-- A page of tasks as it is shown. -/
structure Listing where
  rows : List Row
  total : Nat
  page : Word32
  pageSize : Word32
  totalPages : Nat
  showPagination : Bool
  deriving DecidableEq

/-- The listing of a page. -/
def Listing.ofPage (page : Page) (keyword : String) (previewLength : Nat) : Listing where
  rows := page.items.map fun task => Row.ofTask task keyword previewLength
  total := page.total
  page := page.page
  pageSize := page.pageSize
  totalPages := page.totalPages
  showPagination := page.hasOthers

end TaskBoard
