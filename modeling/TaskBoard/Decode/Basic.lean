import TaskBoard.Decode.Problem

/-!
# Reading values from JSON

A decoder gives the value that a JSON value denotes, or the first problem.
Decoders of single values and of lists are defined here, and records in
`Decode.Record`.
-/

namespace TaskBoard

open Decode

/-- How a JSON value is met: in its place, or after it was set aside while the
rest of a record was looked through. -/
inductive Access where
  | direct
  | setAside
  deriving DecidableEq, Repr

/-- A reading of JSON values as values of a type. -/
abbrev Decoder (α : Type) := Access → Json → Except Problem α

namespace Decoder

/-- Change the values that a decoder gives. -/
def map {α β : Type} (image : α → β) (decode : Decoder α) : Decoder β :=
  fun access value => (decode access value).map image

/-- Refuse some of the values that a decoder gives. -/
def check {α β : Type} (decode : Decoder α) (image : α → Except ArgumentError β) : Decoder β :=
  fun access value =>
    match decode access value with
    | .error problem => .error problem
    | .ok read =>
        match image read with
        | .ok checked => .ok checked
        | .error cause => .error (.refused cause)

/-- Any value. -/
def any : Decoder Json := fun _ value => .ok value

/-- A text. -/
def string : Decoder String
  | _, .string value => .ok value
  | _, other => .error (.wrongType other "a string")

/-- A truth value. -/
def bool : Decoder Bool
  | _, .bool value => .ok value
  | _, other => .error (.wrongType other "a boolean")

/-- A natural number of a width, which `name` names. -/
def natural (limit : Nat) (name : String) : Decoder (Bounded limit)
  | _, .int value =>
      if 0 ≤ value then
        match Bounded.ofNat? value.toNat with
        | some number => .ok number
        | none => .error (.wrongWidth value name)
      else .error (.wrongWidth value name)
  | _, other => .error (.wrongType other name)

/-- A number of eight bits. -/
def word8 : Decoder Word8 := natural 255 "u8"

/-- A number of thirty-two bits. -/
def word32 : Decoder Word32 := natural 4294967295 "u32"

/-- A number of sixty-four bits. -/
def word64 : Decoder Word64 := natural 18446744073709551615 "u64"

/-- A count or a size. -/
def size : Decoder Nat := (natural 18446744073709551615 "usize").map Bounded.val

/-- A whole number with sign, of sixty-four bits. -/
def integer : Decoder Int
  | _, .int value =>
      if -9223372036854775808 ≤ value ∧ value ≤ 9223372036854775807 then .ok value
      else .error (.wrongWidth value "i64")
  | _, other => .error (.wrongType other "i64")

/-- An instant in milliseconds since the epoch. -/
def instant : Decoder Instant
  | _, .int value =>
      match Instant.ofMillis? value with
      | some instant => .ok instant
      | none => .error (.illegalInstant value)
  | _, other => .error (.wrongType other "a unix timestamp in milliseconds")

/-- A moment in text. -/
def moment : Decoder Moment
  | _, .string text =>
      match Rfc3339.read text with
      | .ok moment => .ok moment
      | .error cause => .error (.badMoment cause)
  | _, other => .error (.wrongType other "an RFC 3339 formatted date and time string")

/-- A value that may be absent, which `null` stands for. -/
def option {α : Type} (decode : Decoder α) : Decoder (Option α)
  | _, .null => .ok none
  | access, value => (decode access value).map some

/-- Values one after the other; the first problem decides. -/
def items {α : Type} (decode : Decoder α) (access : Access) : List Json → Except Problem (List α)
  | [] => .ok []
  | item :: rest =>
      match decode access item with
      | .error problem => .error problem
      | .ok value =>
          match items decode access rest with
          | .error problem => .error problem
          | .ok values => .ok (value :: values)

/-- A list of values. -/
def list {α : Type} (decode : Decoder α) : Decoder (List α)
  | access, .array values => items decode access values
  | _, other => .error (.wrongType other "a sequence")

/-- Whether a value stands for nothing beside the name of a choice. -/
def isNothing : Access → Json → Bool
  | _, .null => true
  | .setAside, .object [] => true
  | _, _ => false

/-- The value that a name denotes among the choices. -/
def pick {α : Type} (choices : List (String × α)) (name : String) : Except Problem α :=
  match choices.lookup name with
  | some value => .ok value
  | none => .error (.unknownVariant name (choices.map Prod.fst))

/-- One of several names, alone or as the only member of an object. -/
def choice {α : Type} (choices : List (String × α)) : Decoder α
  | _, .string name => pick choices name
  | access, .object [(name, value)] =>
      match pick choices name with
      | .error problem => .error problem
      | .ok picked =>
          if isNothing access value then .ok picked else .error (.wrongType value "unit")
  | _, .object _ => .error .severalMembers
  | _, other => .error (.wrongType other "string or map")

end Decoder

end TaskBoard
