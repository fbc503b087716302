import TaskBoard.CommandLine.Report
import TaskBoard.Proofs.View.Highlighting
import TaskBoard.Settings.Basic

/-!
# Descriptions in rows

A row shows the beginning of the description of its task, and an ellipsis where the
description goes on.  The text of a row and the line that is printed for it agree but
for the marks around the matches.  There is no line for a row without segments, so
that where a description is not to be shown at all, the ellipsis that stands for it
in the text of the row is not printed.
-/

namespace TaskBoard

namespace Segment

/-- With nothing for marks, the text is left. -/
theorem marked_empty (segments : List Segment) :
    marked "" "" segments = String.ofList (joined segments) := by
  induction segments with
  | nil => rfl
  | cons segment segments ih =>
      rw [marked] at ih
      rw [marked, List.map_cons, String.join_cons, ih, joined_cons, String.ofList_append]
      simp

/-- Segments that are not empty leave a text, whatever the marks are. -/
theorem marked_eq_empty_iff {segments : List Segment}
    (nonempty : ∀ segment ∈ segments, segment.text ≠ []) (opening closing : String) :
    marked opening closing segments = "" ↔ joined segments = [] := by
  cases segments with
  | nil => exact iff_of_true rfl rfl
  | cons segment segments =>
      have filled : segment.text ≠ [] := nonempty segment List.mem_cons_self
      rw [marked, List.map_cons, String.join_cons, joined_cons]
      refine iff_of_false ?_ ?_
      · split <;> simp [filled]
      · simp [filled]

end Segment

/-- The segments together are the text, also for the empty keyword. -/
theorem joined_highlight (text keyword : List Char) :
    Segment.joined (highlight text keyword) = text := by
  by_cases empty : keyword = []
  · rw [empty, highlight_nil, Segment.joined_plain]
  · obtain ⟨needle, highlighted, _⟩ := exists_needle_of_ne_nil empty
    rw [highlighted, Segment.joined_split]

/-- No segment is empty, also for the empty keyword. -/
theorem ne_nil_of_mem_highlight {text keyword : List Char} {segment : Segment}
    (member : segment ∈ highlight text keyword) : segment.text ≠ [] := by
  by_cases empty : keyword = []
  · rw [empty, highlight_nil, Segment.mem_plain] at member
    rw [member.2]
    exact member.1
  · obtain ⟨needle, highlighted, _⟩ := exists_needle_of_ne_nil empty
    rw [highlighted] at member
    exact Segment.ne_nil_of_mem_split member

theorem marked_highlight_eq_empty_iff (opening closing : String) (text keyword : List Char) :
    Segment.marked opening closing (highlight text keyword) = "" ↔ text = [] := by
  rw [Segment.marked_eq_empty_iff fun _ => ne_nil_of_mem_highlight, joined_highlight]

namespace Row

/-- The description of a row with its matches between marks, and the ellipsis if it
was cut. -/
def markedDescription (opening closing : String) (row : Row) : String :=
  Segment.marked opening closing row.description ++ (if row.truncated then ellipsis else "")

/-- The plain text of a description is the marked one, marks aside. -/
theorem markedDescription_empty (row : Row) :
    row.markedDescription "" "" = row.descriptionText := by
  rw [markedDescription, Segment.marked_empty, descriptionText]

variable (task : Task) (keyword : String) (previewLength : Nat)

theorem truncated_ofTask_iff :
    (ofTask task keyword previewLength).truncated = true ↔
      previewLength < task.description.length := by
  rw [← String.length_toList]
  exact decide_eq_true_iff

theorem descriptionText_ofTask :
    (ofTask task keyword previewLength).descriptionText =
      String.ofList (task.description.toList.take previewLength) ++
        (if previewLength < task.description.length then ellipsis else "") := by
  have whole : Segment.joined (ofTask task keyword previewLength).description =
      task.description.toList.take previewLength := joined_highlight _ _
  simp only [descriptionText, whole, truncated_ofTask_iff]

/-- Only a description that is empty has no text, since the ellipsis stands for one that
is not shown. -/
theorem descriptionText_ofTask_eq_empty_iff :
    (ofTask task keyword previewLength).descriptionText = "" ↔ task.description = "" := by
  rw [descriptionText_ofTask, String.append_eq_empty_iff, String.ofList_eq_empty_iff,
    List.take_eq_nil_iff, String.toList_eq_nil_iff]
  constructor
  · rintro ⟨rfl | empty, untold⟩
    · by_contra filled
      have some : 0 < task.description.length := Nat.pos_of_ne_zero (by simpa using filled)
      rw [if_pos some] at untold
      exact absurd untold (by decide)
    · exact empty
  · intro empty
    rw [empty]
    exact ⟨.inr rfl, if_neg (Nat.not_lt_zero _)⟩

end Row

namespace Settings

/-- The settings with another number of characters of a description that are shown. -/
def withPreviewLength (settings : Settings) (previewLength : Nat) : Settings :=
  { settings with search := { settings.search with previewLength } }

end Settings

namespace CommandLine

/-- The line for the description of a row: its text behind blanks, the matches in
brackets. -/
def descriptionLine (row : Row) : String := "      " ++ row.markedDescription "[" "]"

/-- A row is printed with its description: behind the line of the task stands the line
for the description, unless its text is empty. -/
def PrintsDescription (row : Row) : Prop :=
  rowLines row = rowLines { row with description := [] } ++
    if row.descriptionText = "" then [] else [descriptionLine row]

/-- The description of a row has a line exactly if some of it is to be shown. -/
theorem descriptionLines_ofTask (task : Task) (keyword : String) (previewLength : Nat) :
    descriptionLines (Row.ofTask task keyword previewLength) =
      if task.description.toList.take previewLength = [] then []
      else [descriptionLine (Row.ofTask task keyword previewLength)] := by
  have nothing :
      (bracketed (Row.ofTask task keyword previewLength).description).isEmpty = true ↔
        task.description.toList.take previewLength = [] := by
    rw [String.isEmpty_iff]
    exact marked_highlight_eq_empty_iff _ _ _ _
  simp only [descriptionLines, nothing]
  rw [String.append_assoc]
  rfl

/-- The line of the task is the same whatever there is of its description. -/
theorem rowLines_eq_append (row : Row) :
    rowLines row = rowLines { row with description := [] } ++ descriptionLines row := by
  have left : descriptionLines { row with description := [] } = [] := rfl
  rw [rowLines, rowLines, left]
  rfl

/-- A row shows the first characters of the description of its task, as many as the
settings say, whatever number that is; an ellipsis follows in its text exactly if the
description is longer.  The printed row has the same text, with the matches in
brackets, on a line behind the line of the task, and no such line if there are no
characters to be shown.  So it is printed with its description unless a description
that is not empty is to be shown up to no character at all. -/
theorem row_printed_with_description_iff (task : Task) (keyword : String) (previewLength : Nat) :
    let row := Row.ofTask task keyword previewLength
    let shown := task.description.toList.take previewLength
    (∀ settings : Settings,
      (settings.withPreviewLength previewLength).validate = settings.validate) ∧
    row.description = highlight shown keyword.toList ∧
    row.descriptionText = String.ofList shown ++
      (if previewLength < task.description.length then Row.ellipsis else "") ∧
    row.markedDescription "" "" = row.descriptionText ∧
    rowLines row = rowLines { row with description := [] } ++
      (if shown = [] then [] else [descriptionLine row]) ∧
    (PrintsDescription row ↔ 0 < previewLength ∨ task.description = "") := by
  intro row shown
  have printed : rowLines row = rowLines { row with description := [] } ++
      (if shown = [] then [] else [descriptionLine row]) := by
    rw [rowLines_eq_append row, descriptionLines_ofTask]
  have unshown : shown = [] ↔ previewLength = 0 ∨ task.description = "" :=
    List.take_eq_nil_iff.trans (or_congr_right String.toList_eq_nil_iff)
  have textless : row.descriptionText = "" ↔ task.description = "" :=
    Row.descriptionText_ofTask_eq_empty_iff task keyword previewLength
  refine ⟨fun _ => rfl, rfl, Row.descriptionText_ofTask task keyword previewLength,
    Row.markedDescription_empty row, printed, ?_⟩
  -- The line is there for some characters, and it has to be there for some text.
  rw [PrintsDescription, printed, List.append_cancel_left_eq, if_congr unshown rfl rfl,
    if_congr textless rfl rfl]
  by_cases empty : task.description = ""
  · simp [empty]
  · simp [empty, Nat.pos_iff_ne_zero]

/-- A task with a description. -/
def describedApp : Task :=
  { Task.fresh ⟨1, Nat.one_pos⟩ "React app" ⟨"alice"⟩ .epoch with description := "Build modern" }

/-- It is not true that every row is printed with its description: up to no character,
a description is an ellipsis in the text of the row, and nothing of it is printed. -/
theorem unshown_description_not_printed :
    (Settings.standard.withPreviewLength 0).validate = .ok () ∧
      (Row.ofTask describedApp "app" 0).descriptionText = "..." ∧
      rowLines (Row.ofTask describedApp "app" 0) =
        rowLines { Row.ofTask describedApp "app" 0 with description := [] } ∧
      ¬ PrintsDescription (Row.ofTask describedApp "app" 0) := by
  have text : (Row.ofTask describedApp "app" 0).descriptionText = "..." := by
    rw [Row.descriptionText_ofTask]
    decide
  have printed := rowLines_eq_append (Row.ofTask describedApp "app" 0)
  rw [descriptionLines_ofTask, if_pos List.take_zero, List.append_nil] at printed
  refine ⟨by decide, text, printed, ?_⟩
  rw [PrintsDescription, text, if_neg (by decide), printed]
  exact fun same => absurd (congrArg List.length same) (by simp)

end CommandLine

end TaskBoard
