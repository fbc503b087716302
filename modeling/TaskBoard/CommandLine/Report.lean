import TaskBoard.Statistics
import TaskBoard.View.Row

/-!
# Reports

The text that the program prints: rows of tasks with the matches in brackets,
and the statistics of a snapshot.
-/

namespace TaskBoard.CommandLine

/-- A text with blanks before it up to a width. -/
def padLeft (width : Nat) (text : String) : String :=
  String.ofList (List.replicate (width - text.length) ' ') ++ text

/-- A text with blanks behind it up to a width. -/
def padRight (width : Nat) (text : String) : String :=
  text ++ String.ofList (List.replicate (width - text.length) ' ')

/-- Segments with the matches in brackets. -/
def bracketed (segments : List Segment) : String := Segment.marked "[" "]" segments

/-- The line of a row that describes the task, if there is anything to show. -/
def descriptionLines (row : Row) : List String :=
  let description := bracketed row.description
  if description.isEmpty then []
  else ["      " ++ description ++ (if row.truncated then Row.ellipsis else "")]

/-- The lines of a row. -/
def rowLines (row : Row) : List String :=
  let assignee :=
    match row.assignee with
    | some account => account.name
    | none => "-"
  (padLeft 4 (toString row.id.toNat) ++ "  " ++ bracketed row.title ++
    "  [" ++ row.status.label ++ "] [" ++ row.priority.label ++ "]  reward " ++
    toString row.reward.val ++ "  difficulty " ++ row.difficulty ++ "  creator " ++
    row.creator.name ++ "  assignee " ++ assignee) :: descriptionLines row

/-- The line below the rows of a listing. -/
def footer (listing : Listing) : String :=
  if listing.showPagination then
    "-- page " ++ toString listing.page.val ++ "/" ++ toString listing.totalPages ++ " (" ++
      toString listing.total ++ " tasks, " ++ toString listing.pageSize.val ++ " per page)"
  else "-- " ++ toString listing.total ++ " tasks"

/-- The lines of a listing. -/
def listingLines (listing : Listing) : List String :=
  if listing.rows.isEmpty then
    ["no matching tasks (" ++ toString listing.total ++ " total)"]
  else listing.rows.flatMap rowLines ++ [footer listing]

/-- The lines of the rows of a quick search. -/
def quickLines (rows : List Row) : List String :=
  if rows.isEmpty then ["no matching tasks"] else rows.flatMap rowLines

/-- An indented line of statistics: what is counted, and the count. -/
def countLine (label rest : String) : String := "  " ++ padRight 22 label ++ rest

/-- A count with its percentage of all tasks. -/
def share (statistics : Statistics) (count : Nat) : String :=
  toString count ++ " (" ++ (statistics.percentage count).fixed 1 ++ "%)"

/-- The lines of statistics. -/
def statisticsLines (statistics : Statistics) : List String :=
  ["tasks:        " ++ toString statistics.total] ++
    Status.all.map (fun status => countLine status.name (toString (statistics.count status))) ++
    Priority.all.map (fun priority =>
      countLine priority.name (toString (statistics.countPriority priority))) ++
    ["difficulty:"] ++
    statistics.byDifficulty.map (fun (level, count) =>
      countLine (toString level ++ "/10") (share statistics count)) ++
    ["reward:"] ++
    statistics.buckets.map (fun bucket =>
      countLine bucket.band.label
        (share statistics bucket.count ++ ", total " ++ toString bucket.totalReward.val)) ++
    ["total reward: " ++ toString statistics.totalReward.val,
      "avg difficulty: " ++ statistics.averageDifficulty.fixed 1,
      "completion:   " ++ statistics.completionRate.fixed 1 ++ "%",
      "overdue:      " ++ toString statistics.overdue]

/-- Lines as a text. -/
def unlines (lines : List String) : String := String.join (lines.map fun line => line ++ "\n")

end TaskBoard.CommandLine
