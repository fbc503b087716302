import TaskBoard.Proofs.Decode.Origins

/-!
# Records with a gap

A gap is a record without the value of one field: an object without the value of one
member, or an array without one item.  However it is filled, all other fields are read
alike (`DifferAt`), so that two fillings which the field accepts are told apart only by
what is made of this field (`Record.decode_fill`).
-/

namespace TaskBoard

open Decode

/-- A record without the value of a field, which has a name in an object and a position in
an array. -/
inductive Json.Gap (name : String) (position : Nat) where
  | member (before after : List (String × Json))
  | item (before after : List Json) (inPlace : before.length = position)

/-- The record with a value in the gap. -/
def Json.Gap.fill {name : String} {position : Nat} (gap : Json.Gap name position)
    (value : Json) : Json :=
  match gap with
  | .member before after => .object (before ++ (name, value) :: after)
  | .item before after _ => .array (before ++ value :: after)

/-- Two records of which one field is read as `given` and as `instead`, and all others alike. -/
structure Record.DifferAt {α : Type} (field : Field α) (position : Nat) (given instead : α)
    (left right : Record) : Prop where
  left_read : left.read position field = .ok given
  right_read : right.read position field = .ok instead
  read_eq : ∀ {β : Type} (place : Nat) (other : Field β), place ≠ position →
    other.covers field.name = false → left.read place other = right.read place other

variable {access : Access}

/-- The members of an object are met alike, whatever accepted value one of them has. -/
theorem Slot.meet_append_cons {slots : List Slot} {name : String} {given instead : Json}
    (alike : ∀ slot, (slots.find? fun slot => slot.covers name) = some slot →
      slot.accept access given = slot.accept access instead)
    (before after : List (String × Json)) (filled : List String) :
    meet slots access filled (before ++ (name, given) :: after) =
      meet slots access filled (before ++ (name, instead) :: after) := by
  induction before generalizing filled with
  | nil =>
      rw [List.nil_append, List.nil_append, meet, meet]
      cases found : slots.find? fun slot => slot.covers name with
      | none => rfl
      | some slot =>
          dsimp only
          rw [alike slot found]
  | cons member rest ih =>
      rw [List.cons_append, List.cons_append, meet, meet]
      simp only [ih]

theorem Field.covers_name {α : Type} (field : Field α) : field.covers field.name = true := by
  simp [Field.covers]

section Filled

variable {α : Type} {field : Field α} {given instead : Json} {left right : α}
variable (leftRead : field.decode access given = .ok left)
variable (rightRead : field.decode access instead = .ok right)
include leftRead rightRead

/-- Objects that are met without a problem differ at the gap alone. -/
theorem Record.differAt_named {slots : List Slot} (owns : Slot.Owns slots field.slot)
    {before after : List (String × Json)}
    (leftMet : Slot.meet slots access [] (before ++ (field.name, given) :: after) = .ok ())
    (rightMet : Slot.meet slots access [] (before ++ (field.name, instead) :: after) = .ok ())
    (position : Nat) :
    DifferAt field position left right
      (.named access (before ++ (field.name, given) :: after))
      (.named access (before ++ (field.name, instead) :: after)) where
  left_read := by
    rw [read_named_of_meet owns leftMet List.mem_append_cons_self field.covers_name, leftRead]
  right_read := by
    rw [read_named_of_meet owns rightMet List.mem_append_cons_self field.covers_name, rightRead]
  read_eq place other elsewhere uncovered := by
    simp only [read, List.find?_append, List.find?_cons, uncovered]

/-- Arrays differ at the gap alone. -/
theorem Record.differAt_listed (title : String) (size : Nat) (before after : List Json) :
    DifferAt field before.length left right
      (.listed access title size (before ++ given :: after))
      (.listed access title size (before ++ instead :: after)) where
  left_read := by
    simp [read, leftRead]
  right_read := by
    simp [read, rightRead]
  read_eq place other elsewhere uncovered := by
    have same : (before ++ given :: after)[place]? = (before ++ instead :: after)[place]? := by
      grind
    rw [read, read, same]

/-- If a record that differs in one field is built into a changed value, then another value
in the gap changes what is read in the same way. -/
theorem Record.decode_fill {β : Type} {title : String} {slots : List Slot}
    {build : Record → Except Problem β} {name : String} {position : Nat} {change : β → β}
    (named : field.name = name) (owns : Slot.Owns slots field.slot)
    (changes : ∀ {record other : Record}, DifferAt field position left right record other →
      build other = (build record).map change)
    (gap : Json.Gap name position) :
    decode title slots build access (gap.fill instead) =
      (decode title slots build access (gap.fill given)).map change := by
  subst named
  cases gap with
  | member before after =>
      have alike : ∀ slot, (slots.find? fun slot => slot.covers field.name) = some slot →
          slot.accept access given = slot.accept access instead := by
        intro slot found
        rw [owns field.name field.covers_name, Option.some.injEq] at found
        subst found
        simp only [Field.slot, leftRead, rightRead, Except.map]
      have met := Slot.meet_append_cons alike before after []
      rw [Json.Gap.fill, Json.Gap.fill, decode, decode, ← met]
      cases leftMet : Slot.meet slots access [] (before ++ (field.name, given) :: after) with
      | error problem => rfl
      | ok _ => exact changes (differAt_named leftRead rightRead owns leftMet (met ▸ leftMet) _)
  | item before after inPlace =>
      rw [Json.Gap.fill, Json.Gap.fill, decode, decode]
      subst inPlace
      have sameLength : (before ++ instead :: after).length =
          (before ++ given :: after).length := by
        rw [List.length_append, List.length_append, List.length_cons, List.length_cons]
      rw [changes (differAt_listed leftRead rightRead title slots.length before after), sameLength]
      cases build (.listed access title slots.length (before ++ given :: after)) with
      | error problem => rfl
      | ok value =>
          dsimp only [Except.map]
          split <;> rfl

end Filled

end TaskBoard
