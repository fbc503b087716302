import TaskBoard.Task.Format
import TaskBoard.View.Row

/-!
# Views in JSON
-/

namespace TaskBoard

/-- A colour in JSON. -/
def Color.encode (color : Color) : Json := .string color.name

/-- A colour from JSON. -/
def Color.decode : Decoder Color := .choice Color.choices

/-- A badge in JSON. -/
def Badge.encode (badge : Badge) : Json :=
  .object [("label", .string badge.label), ("color", badge.color.encode)]

/-- A segment in JSON. -/
def Segment.encode (segment : Segment) : Json :=
  .object [("text", .string (String.ofList segment.text)), ("matched", .bool segment.isMatch)]

/-- The members of a row in JSON. -/
def Row.members (row : Row) : List (String × Json) := [
  ("id", row.id.encode),
  ("title", .array (row.title.map Segment.encode)),
  ("description", .array (row.description.map Segment.encode)),
  ("truncated", .bool row.truncated),
  ("status", row.status.encode),
  ("priority", row.priority.encode),
  ("reward", row.reward.encode),
  ("difficulty", .string row.difficulty),
  ("creator", row.creator.encode),
  ("assignee", .ofOption Account.encode row.assignee)]

/-- A row in JSON. -/
def Row.encode (row : Row) : Json := .object row.members

/-- A listing in JSON, with a given form of its rows. -/
def Listing.encodeWith (writeRow : Row → Json) (listing : Listing) : Json :=
  .object [
    ("rows", .array (listing.rows.map writeRow)),
    ("total", .nat listing.total),
    ("page", listing.page.encode),
    ("page_size", listing.pageSize.encode),
    ("total_pages", .nat listing.totalPages),
    ("show_pagination", .bool listing.showPagination)]

/-- A listing in JSON. -/
def Listing.encode (listing : Listing) : Json := listing.encodeWith Row.encode

end TaskBoard
