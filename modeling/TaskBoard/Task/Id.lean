import TaskBoard.Argument

/-!
# Identifiers

Tasks and notifications are numbered from one.  The number zero stands for
"none" and is refused.  An account is known by its name alone.
-/

namespace TaskBoard

/-- What an identifier identifies. -/
inductive IdKind where
  | task
  | notification
  deriving DecidableEq, Repr

/-- A positive number that identifies a task or a notification. -/
structure Id (kind : IdKind) where
  number : Word32
  positive : 0 < number.val
  deriving DecidableEq

/-- The identifier of a task. -/
abbrev TaskId := Id .task

/-- The identifier of a notification. -/
abbrev NotificationId := Id .notification

namespace Id

variable {kind : IdKind}

@[ext] theorem ext {left right : Id kind} (equal : left.number = right.number) :
    left = right := by
  cases left
  cases right
  cases equal
  rfl

/-- The identifier of a number, unless the number is zero. -/
def ofNumber (number : Word32) : Except ArgumentError (Id kind) :=
  if positive : 0 < number.val then .ok ⟨number, positive⟩ else .error .zeroId

@[simp] theorem ofNumber_number (id : Id kind) : ofNumber id.number = .ok id := by
  simp [ofNumber, id.positive]

/-- The number of an identifier. -/
def toNat (id : Id kind) : Nat := id.number.val

theorem toNat_inj {left right : Id kind} : left.toNat = right.toNat ↔ left = right :=
  ⟨fun equal => ext (Bounded.ext equal), fun equal => equal ▸ rfl⟩

/-- The word that stands before the number of an identifier. -/
def word : IdKind → String
  | .task => "task"
  | .notification => "notification"

/-- The identifier as it is shown. -/
def text (id : Id kind) : String := word kind ++ "-" ++ toString id.toNat

end Id

/-- An account, known by its name. -/
structure Account where
  name : String
  deriving DecidableEq, Repr, Inhabited

end TaskBoard
