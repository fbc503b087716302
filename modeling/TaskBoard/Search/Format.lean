import TaskBoard.Search.Request
import TaskBoard.Task.Format

/-!
# Searches in JSON

The conditions of a request stand beside its other parts in one object, and the
bounds of time ranges are texts.
-/

namespace TaskBoard

/-- A moment in JSON. -/
def Moment.encode (moment : Moment) : Json := .string (Rfc3339.write moment)

namespace Range

variable {α : Type}

/-- A range in JSON. -/
def encode (write : α → Json) (range : Range α) : Json :=
  .object [("min", write range.min), ("max", write range.max)]

def minField (decode : Decoder α) : Field α := .required "min" decode
def maxField (decode : Decoder α) : Field α := .required "max" decode

/-- The range that the parts of a record make up. -/
def ofRecord (decode : Decoder α) (record : Record) : Except Decode.Problem (Range α) := do
  let min ← record.read 0 (minField decode)
  let max ← record.read 1 (maxField decode)
  return { min, max }

/-- A range from JSON. -/
def decode (decode : Decoder α) : Decoder (Range α) :=
  Record.decode "struct ValueRange" [(minField decode).slot, (maxField decode).slot]
    (ofRecord decode)

end Range

namespace Filters

def keywordField : Field (Option String) := .optional "keyword" .string
def statusField : Field (Option Status) := .optional "status" Status.decode
def priorityField : Field (Option Priority) := .optional "priority" Priority.decode
def difficultyRangeField : Field (Option (Range Word8)) :=
  .optional "difficulty_range" (Range.decode .word8)
def rewardRangeField : Field (Option (Range Word64)) :=
  .optional "reward_range" (Range.decode .word64)
def creatorField : Field (Option String) := .optional "creator" .string
def assigneeField : Field (Option String) := .optional "assignee" .string
def deadlineRangeField : Field (Option (Range Moment)) :=
  .optional "deadline_range" (Range.decode .moment)
def createdRangeField : Field (Option (Range Moment)) :=
  .optional "created_range" (Range.decode .moment)
def unassignedOnlyField : Field Bool := .withDefault "unassigned_only" .bool false
def hasDeadlineField : Field Bool := .withDefault "has_deadline" .bool false

/-- The fields of filters in their order. -/
def slots : List Slot :=
  [keywordField.slot, statusField.slot, priorityField.slot, difficultyRangeField.slot,
    rewardRangeField.slot, creatorField.slot, assigneeField.slot, deadlineRangeField.slot,
    createdRangeField.slot, unassignedOnlyField.slot, hasDeadlineField.slot]

/-- The filters that the parts of a record make up. -/
def ofRecord (record : Record) : Except Decode.Problem Filters := do
  let keyword ← record.read 0 keywordField
  let status ← record.read 1 statusField
  let priority ← record.read 2 priorityField
  let difficultyRange ← record.read 3 difficultyRangeField
  let rewardRange ← record.read 4 rewardRangeField
  let creator ← record.read 5 creatorField
  let assignee ← record.read 6 assigneeField
  let deadlineRange ← record.read 7 deadlineRangeField
  let createdRange ← record.read 8 createdRangeField
  let unassignedOnly ← record.read 9 unassignedOnlyField
  let hasDeadline ← record.read 10 hasDeadlineField
  return { keyword, status, priority, difficultyRange, rewardRange, creator, assignee,
           deadlineRange, createdRange, unassignedOnly, hasDeadline }

/-- Filters from JSON. -/
def decode : Decoder Filters := Record.decode "struct SearchFilters" slots ofRecord

/-- The members of filters in JSON. -/
def members (filters : Filters) : List (String × Json) := [
  ("keyword", .ofOption .string filters.keyword),
  ("status", .ofOption Status.encode filters.status),
  ("priority", .ofOption Priority.encode filters.priority),
  ("difficulty_range", .ofOption (Range.encode Bounded.encode) filters.difficultyRange),
  ("reward_range", .ofOption (Range.encode Bounded.encode) filters.rewardRange),
  ("creator", .ofOption .string filters.creator),
  ("assignee", .ofOption .string filters.assignee),
  ("deadline_range", .ofOption (Range.encode Moment.encode) filters.deadlineRange),
  ("created_range", .ofOption (Range.encode Moment.encode) filters.createdRange),
  ("unassigned_only", .bool filters.unassignedOnly),
  ("has_deadline", .bool filters.hasDeadline)]

/-- Filters in JSON. -/
def encode (filters : Filters) : Json := .object filters.members

end Filters

/-- A sort key in JSON. -/
def SortKey.encode (key : SortKey) : Json := .string key.name

/-- A sort key from JSON. -/
def SortKey.decode : Decoder SortKey := .choice SortKey.choices

namespace Request

def sortByField : Field SortKey := .withDefault "sort_by" SortKey.decode .createdAt
def sortDescField : Field Bool := .withDefault "sort_desc" .bool true
def pageField : Field Word32 := .withDefault "page" .word32 1
def pageSizeField : Field Word32 := .withDefault "page_size" .word32 defaultPageSize

/-- The fields that a request has besides its filters. -/
def slots : List Slot :=
  [sortByField.slot, sortDescField.slot, pageField.slot, pageSizeField.slot]

/-- The request that its own parts and the parts set aside for its filters make up. -/
def ofRecords (own conditions : Record) : Except Decode.Problem Request := do
  let key ← own.read 0 sortByField
  let descending ← own.read 1 sortDescField
  let page ← own.read 2 pageField
  let pageSize ← own.read 3 pageSizeField
  let filters ← Filters.ofRecord conditions
  return { filters, order := { key, descending }, page, pageSize }

/-- A request from JSON.  Its own fields are met first, and its filters in what
is set aside meanwhile. -/
def decode : Decoder Request
  | access, .object members =>
      match Slot.meet slots access [] members with
      | .error problem => .error problem
      | .ok () =>
          match Slot.meet Filters.slots .setAside [] members with
          | .error problem => .error problem
          | .ok () => ofRecords (.named access members) (.named .setAside members)
  | _, other => .error (.wrongType other "struct SearchRequest")

/-- A request in JSON. -/
def encode (request : Request) : Json :=
  .object (request.filters.members ++ [
    ("sort_by", request.order.key.encode),
    ("sort_desc", .bool request.order.descending),
    ("page", request.page.encode),
    ("page_size", request.pageSize.encode)])

end Request

namespace Page

def itemsField : Field (List Task) := .required "items" (.list Task.decode)
def totalField : Field Nat := .required "total" .size
def pageField : Field Word32 := .required "page" .word32
def pageSizeField : Field Word32 := .required "page_size" .word32

/-- The fields of a page in their order. -/
def slots : List Slot := [itemsField.slot, totalField.slot, pageField.slot, pageSizeField.slot]

/-- The page that the parts of a record make up. -/
def ofRecord (record : Record) : Except Decode.Problem Page := do
  let items ← record.read 0 itemsField
  let total ← record.read 1 totalField
  let page ← record.read 2 pageField
  let pageSize ← record.read 3 pageSizeField
  return { items, total, page, pageSize }

/-- A page from JSON. -/
def decode : Decoder Page := Record.decode "struct SearchPage" slots ofRecord

/-- The members of a page in JSON. -/
def members (page : Page) : List (String × Json) := [
  ("items", .array (page.items.map Task.encode)),
  ("total", .nat page.total),
  ("page", page.page.encode),
  ("page_size", page.pageSize.encode)]

/-- A page in JSON. -/
def encode (page : Page) : Json := .object page.members

end Page

end TaskBoard
