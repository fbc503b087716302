import TaskBoard.Decode.Record
import TaskBoard.Task.Basic

/-!
# Tasks in JSON

Identifiers, difficulties and rewards are whole numbers, statuses and priorities
names, and instants milliseconds since the epoch.
-/

namespace TaskBoard

/-- An identifier in JSON. -/
def Id.encode {kind : IdKind} (id : Id kind) : Json := .nat id.toNat

/-- An identifier from JSON. -/
def Id.decode {kind : IdKind} : Decoder (Id kind) := Decoder.word32.check Id.ofNumber

/-- An account in JSON. -/
def Account.encode (account : Account) : Json := .string account.name

/-- An account from JSON. -/
def Account.decode : Decoder Account := Decoder.string.map Account.mk

/-- A status in JSON. -/
def Status.encode (status : Status) : Json := .string status.name

/-- A status from JSON. -/
def Status.decode : Decoder Status := .choice Status.choices

/-- A priority in JSON. -/
def Priority.encode (priority : Priority) : Json := .string priority.name

/-- A priority from JSON. -/
def Priority.decode : Decoder Priority := .choice Priority.choices

/-- A difficulty in JSON. -/
def Difficulty.encode (difficulty : Difficulty) : Json := .nat difficulty.level

/-- A difficulty from JSON. -/
def Difficulty.decode : Decoder Difficulty := Decoder.word8.check Difficulty.ofLevel

/-- A bounded number in JSON. -/
def Bounded.encode {limit : Nat} (number : Bounded limit) : Json := .nat number.val

/-- An instant in JSON. -/
def Instant.encode (instant : Instant) : Json := .int instant.millis

namespace Task

def idField : Field TaskId := .required "id" Id.decode
def titleField : Field String := .required "title" .string
def descriptionField : Field String := .withDefault "description" .string ""
def creatorField : Field Account := .required "creator" Account.decode
def assigneeField : Field (Option Account) := .optional "assignee" Account.decode
def statusField : Field Status := .required "status" Status.decode
def priorityField : Field Priority := .required "priority" Priority.decode
def difficultyField : Field Difficulty := .required "difficulty" Difficulty.decode
def rewardField : Field Word64 := .required "reward" .word64
def deadlineField : Field (Option Instant) := .optional "deadline" .instant
def createdAtField : Field Instant := .required "created_at" .instant
def updatedAtField : Field Instant := .required "updated_at" .instant

/-- The fields of a task in their order. -/
def slots : List Slot :=
  [idField.slot, titleField.slot, descriptionField.slot, creatorField.slot, assigneeField.slot,
    statusField.slot, priorityField.slot, difficultyField.slot, rewardField.slot,
    deadlineField.slot, createdAtField.slot, updatedAtField.slot]

/-- The task that the parts of a record make up. -/
def ofRecord (record : Record) : Except Decode.Problem Task := do
  let id ← record.read 0 idField
  let title ← record.read 1 titleField
  let description ← record.read 2 descriptionField
  let creator ← record.read 3 creatorField
  let assignee ← record.read 4 assigneeField
  let status ← record.read 5 statusField
  let priority ← record.read 6 priorityField
  let difficulty ← record.read 7 difficultyField
  let reward ← record.read 8 rewardField
  let deadline ← record.read 9 deadlineField
  let createdAt ← record.read 10 createdAtField
  let updatedAt ← record.read 11 updatedAtField
  return { id, title, description, creator, assignee, status, priority, difficulty, reward,
           deadline, createdAt, updatedAt }

/-- Whether a member of this name is a field of a task. -/
def hasMember (name : String) : Bool := slots.any fun slot => slot.covers name

/-- A task from JSON. -/
def decode : Decoder Task := Record.decode "struct Task" slots ofRecord

/-- A task in JSON. -/
def encode (task : Task) : Json :=
  .object [
    ("id", task.id.encode),
    ("title", .string task.title),
    ("description", .string task.description),
    ("creator", task.creator.encode),
    ("assignee", .ofOption Account.encode task.assignee),
    ("status", task.status.encode),
    ("priority", task.priority.encode),
    ("difficulty", task.difficulty.encode),
    ("reward", task.reward.encode),
    ("deadline", .ofOption Instant.encode task.deadline),
    ("created_at", task.createdAt.encode),
    ("updated_at", task.updatedAt.encode)]

end Task

namespace Draft

def titleField : Field String := .required "title" .string
def descriptionField : Field String := .withDefault "description" .string ""
def priorityField : Field Priority := .withDefault "priority" Priority.decode .medium
def difficultyField : Field Difficulty :=
  .withDefault "difficulty" Difficulty.decode .easiest
def rewardField : Field Word64 := .withDefault "reward" .word64 0
def deadlineField : Field (Option Instant) := .optional "deadline" .instant

/-- The fields of a draft in their order. -/
def slots : List Slot :=
  [titleField.slot, descriptionField.slot, priorityField.slot, difficultyField.slot,
    rewardField.slot, deadlineField.slot]

/-- The draft that the parts of a record make up. -/
def ofRecord (record : Record) : Except Decode.Problem Draft := do
  let title ← record.read 0 titleField
  let description ← record.read 1 descriptionField
  let priority ← record.read 2 priorityField
  let difficulty ← record.read 3 difficultyField
  let reward ← record.read 4 rewardField
  let deadline ← record.read 5 deadlineField
  return { title, description, priority, difficulty, reward, deadline }

/-- A draft from JSON. -/
def decode : Decoder Draft := Record.decode "struct TaskDraft" slots ofRecord

/-- A draft in JSON. -/
def encode (draft : Draft) : Json :=
  .object [
    ("title", .string draft.title),
    ("description", .string draft.description),
    ("priority", draft.priority.encode),
    ("difficulty", draft.difficulty.encode),
    ("reward", draft.reward.encode),
    ("deadline", .ofOption Instant.encode draft.deadline)]

end Draft

end TaskBoard
