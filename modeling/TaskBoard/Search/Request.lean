import TaskBoard.Search.Filters
import TaskBoard.Search.Order
import TaskBoard.Search.Page
import TaskBoard.Text.Blank

/-!
# Searching

A search filters the tasks of a snapshot, sorts what is left and cuts a page out
of it.  A quick search looks for one keyword and gives the newest tasks up to a
limit.
-/

namespace TaskBoard

/-- Everything that determines a search. -/
structure Request where
  filters : Filters
  order : SortOrder
  page : Word32
  pageSize : Word32
  deriving DecidableEq

namespace Request

/-- The number of tasks on a page where nothing else is asked for. -/
def defaultPageSize : Word32 := 10

/-- The first page of the tasks that meet the conditions, newest first. -/
def ofFilters (filters : Filters) : Request where
  filters
  order := .newestFirst
  page := 1
  pageSize := defaultPageSize

instance : Inhabited Request := ⟨ofFilters .empty⟩

/-- Refuse a request for a page that cannot exist. -/
def validate (request : Request) : Except ArgumentError Unit :=
  Page.checkBounds request.page request.pageSize

/-- The tasks that meet the conditions, in order. -/
def arrange (request : Request) (tasks : List Task) : List Task :=
  request.order.sort (request.filters.select tasks)

end Request

/-- The page of a snapshot that a request asks for. -/
def search (tasks : List Task) (request : Request) : Except ArgumentError Page :=
  match request.validate with
  | .error cause => .error cause
  | .ok () => Page.cut (request.arrange tasks) request.page request.pageSize

/-- The newest tasks, up to a limit, with a keyword in title or description;
none where the keyword is blank. -/
def quickSearch (tasks : List Task) (keyword : String) (limit : Nat) : List Task :=
  if Text.isAllBlank keyword then []
  else
    let filters : Filters := { Filters.empty with keyword := some (Text.trim keyword) }
    (SortOrder.newestFirst.sort (filters.select tasks)).take limit

end TaskBoard
