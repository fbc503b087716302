import TaskBoard.Decode.Basic

/-!
# Reading records from JSON

A record is an object with named fields or an array of the fields in order.  The
members of an object are met in the order in which they are written, and the
first member that is repeated or denotes no value decides; fields that are
absent are reported afterwards, in the order of the record.
-/

namespace TaskBoard

open Decode

/-- One field of a record: its names, how it is read, and what stands in for it
when an object lacks it or an array ends before it. -/
structure Field (α : Type) where
  name : String
  decode : Decoder α
  otherNames : List String
  ifAbsent : Option α
  ifShort : Option α

namespace Field

variable {α : Type}

/-- A field that must be present. -/
def required (name : String) (decode : Decoder α) : Field α := ⟨name, decode, [], none, none⟩

/-- A field that a value stands in for. -/
def withDefault (name : String) (decode : Decoder α) (value : α) : Field α :=
  ⟨name, decode, [], some value, some value⟩

/-- A field that may be absent. -/
def optional (name : String) (decode : Decoder α) : Field (Option α) :=
  withDefault name decode.option none

/-- Whether a member of this name is the field. -/
def covers (field : Field α) (name : String) : Bool :=
  name == field.name || field.otherNames.contains name

end Field

/-- What matters of a field while the members of an object are met: which names
it has and which values it accepts. -/
structure Slot where
  name : String
  covers : String → Bool
  accept : Access → Json → Except Problem Unit

/-- The slot that a field fills. -/
def Field.slot {α : Type} (field : Field α) : Slot :=
  ⟨field.name, field.covers, fun access value => (field.decode access value).map fun _ => ()⟩

/-- Meet the members of an object in order; the slots already `filled` are known
by name. -/
def Slot.meet (slots : List Slot) (access : Access) :
    (filled : List String) → List (String × Json) → Except Problem Unit
  | _, [] => .ok ()
  | filled, (name, value) :: rest =>
      match slots.find? fun slot => slot.covers name with
      | none => meet slots access filled rest
      | some slot =>
          if filled.contains slot.name then .error (.duplicateField slot.name)
          else
            match slot.accept access value with
            | .error problem => .error problem
            | .ok () => meet slots access (slot.name :: filled) rest

/-- The parts of a record before its fields are read. -/
inductive Record where
  | named (access : Access) (members : List (String × Json))
  | listed (access : Access) (title : String) (size : Nat) (items : List Json)

namespace Record

variable {α : Type}

/-- The value of a field, which is the one at a position in the array form. -/
def read (record : Record) (position : Nat) (field : Field α) : Except Problem α :=
  match record with
  | .named access members =>
      match members.find? fun member => field.covers member.1 with
      | some member => field.decode access member.2
      | none =>
          match field.ifAbsent with
          | some value => .ok value
          | none => .error (.missingField field.name)
  | .listed access title size items =>
      match items[position]? with
      | some item => field.decode access item
      | none =>
          match field.ifShort with
          | some value => .ok value
          | none => .error (.tooFewItems position title size)

/-- The problem of an array that has more items than the record has fields. -/
def excess (access : Access) (count size : Nat) : Problem :=
  match access with
  | .direct => .tooManyItems count
  | .setAside => .tooManySetAside count size

/-- Read a record with the fields of `slots`; `title` names the record. -/
def decode (title : String) (slots : List Slot) (build : Record → Except Problem α) :
    Decoder α
  | access, .object members =>
      match Slot.meet slots access [] members with
      | .error problem => .error problem
      | .ok () => build (.named access members)
  | access, .array items =>
      match build (.listed access title slots.length items) with
      | .error problem => .error problem
      | .ok value =>
          if slots.length < items.length then
            .error (excess access items.length slots.length)
          else .ok value
  | _, other => .error (.wrongType other title)

end Record

/-- A record of one of several kinds; the member `tag`, or the first item of an
array, names the kind, and the parts besides it are set aside for the record. -/
def Decoder.tagged {α : Type} (title tag : String) (kinds : List (String × Decoder α)) :
    Decoder α :=
  let kindOf : Json → Except Problem (Decoder α)
    | .string name => Decoder.pick kinds name
    | other => .error (.wrongType other "variant identifier")
  fun
  | _, .object members =>
      match members.lookup tag with
      | none => .error (.missingField tag)
      | some name =>
          kindOf name >>= fun decode =>
            decode .setAside (.object (members.filter fun member => member.1 != tag))
  | _, .array [] => .error (.missingField tag)
  | _, .array (name :: items) => kindOf name >>= fun decode => decode .setAside (.array items)
  | _, other => .error (.wrongType other title)

end TaskBoard
