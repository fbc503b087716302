import TaskBoard.Decode.Record
import TaskBoard.Task.Basic
import TaskBoard.Task.Format
import TaskBoard.Text.Hex

/-!
# Tasks from the storage of the chain

The storage holds a record for each task under its number.  The record may give
title and description as hexadecimal bytes, status and priority by code or by
name, and the reward as a number or as a decimal or hexadecimal numeral.
Whatever it gives, a record denotes one task or is refused; nothing unknown is
replaced by a default.
-/

namespace TaskBoard.Storage

/-- A number or a text, where storage may hold either. -/
inductive Scalar where
  | number (value : Word64)
  | text (value : String)
  deriving DecidableEq

/-- A number or a text; `name` names the choice between them. -/
def Scalar.decode (name : String) : Decoder Scalar
  | _, .int value =>
      if 0 ≤ value then
        match Bounded.ofNat? value.toNat with
        | some word => .ok (.number word)
        | none => .error (.noAlternative name)
      else .error (.noAlternative name)
  | _, .string value => .ok (.text value)
  | _, _ => .error (.noAlternative name)

/-- A task as storage holds it. -/
structure Entry where
  title : String
  description : String
  creator : String
  assignee : Option String
  status : Scalar
  priority : Scalar
  difficulty : Word8
  reward : Scalar
  deadline : Option Int
  createdAt : Int
  updatedAt : Int
  deriving DecidableEq

namespace Entry

def titleField : Field String := .required "title" .string
def descriptionField : Field String := .withDefault "description" .string ""
def creatorField : Field String := .required "creator" .string
def assigneeField : Field (Option String) := .optional "assignee" .string
def statusField : Field Scalar := .required "status" (Scalar.decode "CodeOrName")
def priorityField : Field Scalar := .required "priority" (Scalar.decode "CodeOrName")
def difficultyField : Field Word8 := .required "difficulty" .word8
def rewardField : Field Scalar := .required "reward" (Scalar.decode "Amount")
def deadlineField : Field (Option Int) := .optional "deadline" .integer
def createdAtField : Field Int :=
  { Field.required "created_at" .integer with otherNames := ["createdAt"] }
def updatedAtField : Field Int :=
  { Field.required "updated_at" .integer with otherNames := ["updatedAt"] }

/-- The fields of an entry in their order. -/
def slots : List Slot :=
  [titleField.slot, descriptionField.slot, creatorField.slot, assigneeField.slot,
    statusField.slot, priorityField.slot, difficultyField.slot, rewardField.slot,
    deadlineField.slot, createdAtField.slot, updatedAtField.slot]

/-- The entry that the parts of a record make up. -/
def ofRecord (record : Record) : Except Decode.Problem Entry := do
  let title ← record.read 0 titleField
  let description ← record.read 1 descriptionField
  let creator ← record.read 2 creatorField
  let assignee ← record.read 3 assigneeField
  let status ← record.read 4 statusField
  let priority ← record.read 5 priorityField
  let difficulty ← record.read 6 difficultyField
  let reward ← record.read 7 rewardField
  let deadline ← record.read 8 deadlineField
  let createdAt ← record.read 9 createdAtField
  let updatedAt ← record.read 10 updatedAtField
  return { title, description, creator, assignee, status, priority, difficulty, reward,
           deadline, createdAt, updatedAt }

/-- An entry from JSON. -/
def decode : Decoder Entry := Record.decode "struct RawTask" slots ofRecord

end Entry

/-- What is wrong with a field of an entry. -/
inductive FieldError where
  | argument (cause : ArgumentError)
  | illegalInstant (millis : Int)
  | hex (cause : Text.HexError)
  | numeral (cause : Text.NumeralError)
  | tooLarge (value : Nat)
  deriving DecidableEq

/-- The text that reports a bad field. -/
def FieldError.message : FieldError → String
  | .argument cause => cause.message
  | .illegalInstant millis => "timestamp out of range: " ++ toString millis
  | .hex cause => cause.message
  | .numeral cause => cause.message
  | .tooLarge value => toString value ++ " does not fit in u64"

/-- Why a record denotes no task. -/
inductive RecordError where
  | malformed (problem : Decode.Problem)
  | zeroId (number : Word32)
  | unknownStatus (text : String)
  | unknownPriority (text : String)
  | badField (name : String) (cause : FieldError)

/-- The text that reports a refused record. -/
def RecordError.message : RecordError → String
  | .malformed problem => "malformed task record: " ++ problem.message
  | .zeroId number => "task id must be positive, got " ++ toString number.val
  | .unknownStatus text => "unknown task status: " ++ text
  | .unknownPriority text => "unknown task priority: " ++ text
  | .badField name cause => "invalid " ++ name ++ ": " ++ cause.message

/-- The status that a code or a name denotes. -/
def readStatus : Scalar → Except RecordError Status
  | .number code =>
      match Status.ofCode? code.val with
      | some status => .ok status
      | none => .error (.unknownStatus (toString code.val))
  | .text name =>
      match Status.ofText name with
      | .ok status => .ok status
      | .error _ => .error (.unknownStatus name)

/-- The priority that a code or a name denotes. -/
def readPriority : Scalar → Except RecordError Priority
  | .number code =>
      match Priority.ofOrdinal? code.val with
      | some priority => .ok priority
      | none => .error (.unknownPriority (toString code.val))
  | .text name =>
      match Priority.ofText name with
      | .ok priority => .ok priority
      | .error _ => .error (.unknownPriority name)

/-- The greatest number that a numeral of a reward may denote before its width
is looked at. -/
def numeralLimit : Nat := 340282366920938463463374607431768211455

/-- The characters after `0x`, if the text begins so. -/
def afterHexMark? : List Char → Option (List Char)
  | '0' :: 'x' :: digits => some digits
  | _ => none

/-- The number that a numeral in a text denotes. -/
def readNumeral (text : List Char) : Except Text.NumeralError Nat :=
  match afterHexMark? text with
  | some digits => Text.readNatural 16 numeralLimit digits
  | none => Text.readNatural 10 numeralLimit text

/-- The reward that a number or a numeral denotes. -/
def readReward : Scalar → Except RecordError Word64
  | .number value => .ok value
  | .text text =>
      match readNumeral text.toList with
      | .error cause => .error (.badField "reward" (.numeral cause))
      | .ok value =>
          match Bounded.ofNat? value with
          | some reward => .ok reward
          | none => .error (.badField "reward" (.tooLarge value))

/-- The text that a field gives as itself or as hexadecimal bytes. -/
def readText (name text : String) : Except RecordError String :=
  match afterHexMark? text.toList with
  | none => .ok text
  | some digits =>
      match Text.readHex digits with
      | .ok characters => .ok (String.ofList characters)
      | .error cause => .error (.badField name (.hex cause))

/-- The instant that a field gives. -/
def readInstant (name : String) (millis : Int) : Except RecordError Instant :=
  match Instant.ofMillis? millis with
  | some instant => .ok instant
  | none => .error (.badField name (.illegalInstant millis))

/-- The instant that a field gives, if it gives one. -/
def readInstant? (name : String) : Option Int → Except RecordError (Option Instant)
  | none => .ok none
  | some millis => (readInstant name millis).map some

/-- The difficulty that a level denotes. -/
def readDifficulty (level : Word8) : Except RecordError Difficulty :=
  match Difficulty.ofLevel level with
  | .ok difficulty => .ok difficulty
  | .error cause => .error (.badField "difficulty" (.argument cause))

/-- The task that an entry denotes under an identifier. -/
def Entry.toTask (id : TaskId) (entry : Entry) : Except RecordError Task := do
  let difficulty ← readDifficulty entry.difficulty
  let createdAt ← readInstant "created_at" entry.createdAt
  let updatedAt ← readInstant "updated_at" entry.updatedAt
  let deadline ← readInstant? "deadline" entry.deadline
  let title ← readText "title" entry.title
  let description ← readText "description" entry.description
  let status ← readStatus entry.status
  let priority ← readPriority entry.priority
  let reward ← readReward entry.reward
  let task : Task :=
    { Task.fresh id title ⟨entry.creator⟩ createdAt with
      description, status, priority, difficulty, reward, deadline
      assignee := entry.assignee.map Account.mk }
  return task.touch updatedAt

/-- The task that a record denotes under a number. -/
def decodeTask (number : Word32) (record : Json) : Except RecordError Task :=
  match Id.ofNumber number with
  | .error _ => .error (.zeroId number)
  | .ok id =>
      match Entry.decode .direct record with
      | .error problem => .error (.malformed problem)
      | .ok entry => entry.toTask id

/-- The tasks that the entries of the storage denote, or the first refusal. -/
def decodeEntries : List (Word32 × Json) → Except RecordError (List Task)
  | [] => .ok []
  | (number, record) :: rest =>
      match decodeTask number record with
      | .error cause => .error cause
      | .ok task =>
          match decodeEntries rest with
          | .error cause => .error cause
          | .ok tasks => .ok (task :: tasks)

end TaskBoard.Storage
