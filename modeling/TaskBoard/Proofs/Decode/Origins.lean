import TaskBoard.Proofs.Decode.Members

/-!
# What the fields of a record are read from

`HasField` says that a record holds a value in the place of a field: under a name of
the field in an object, or at the position of the field in an array.  A record that can
be read holds at most one value there, and the field is read from this value.
-/

namespace TaskBoard

open Decode

/-- A record holds a value in the place of a field. -/
inductive Json.HasField (names : List String) (position : Nat) : (record value : Json) → Prop where
  | member {name : String} {members : List (String × Json)} {value : Json} :
      name ∈ names → (name, value) ∈ members → HasField names position (.object members) value
  | item {items : List Json} {value : Json} :
      items[position]? = some value → HasField names position (.array items) value

/-- Of two steps that succeed, the first gives what the second goes on with. -/
theorem Decode.bind_eq_ok_iff {ε α β : Type} {first : Except ε α} {rest : α → Except ε β}
    {result : β} :
    first >>= rest = .ok result ↔ ∃ value, first = .ok value ∧ rest value = .ok result := by
  cases first with
  | error cause =>
      constructor
      · intro failed
        cases failed
      · rintro ⟨_, failed, _⟩
        cases failed
  | ok value =>
      constructor
      · intro succeeded
        exact ⟨value, rfl, succeeded⟩
      · rintro ⟨_, same, succeeded⟩
        cases same
        exact succeeded

namespace Slot

variable {slots : List Slot} {slot : Slot} {access : Access} {members : List (String × Json)}

/-- Every name that the slot covers is looked up as this slot among all. -/
def Owns (slots : List Slot) (slot : Slot) : Prop :=
  ∀ name, slot.covers name = true → (slots.find? fun other => other.covers name) = some slot

/-- If the members are met without a problem, a slot is filled at most once. -/
theorem Owns.length_le_of_meet (owns : Owns slots slot) {filled : List String}
    (met : meet slots access filled members = .ok ()) :
    (membersNamed slot.covers members).length ≤ if slot.name ∈ filled then 0 else 1 := by
  induction members generalizing filled with
  | nil => exact Nat.zero_le _
  | cons member rest ih =>
      rw [meet] at met
      cases covered : slot.covers member.1 with
      | true =>
          rw [owns member.1 covered] at met
          dsimp only at met
          split at met
          · cases met
          · next unfilled =>
            split at met
            · cases met
            · have none := ih met
              rw [List.contains_iff_mem] at unfilled
              rw [if_pos List.mem_cons_self] at none
              rw [membersNamed_cons_of_pos covered, if_neg unfilled, List.length_cons]
              exact Nat.succ_le_succ none
      | false =>
          have behind : membersNamed slot.covers (member :: rest) =
              membersNamed slot.covers rest :=
            List.filter_cons_of_neg (Bool.eq_false_iff.mp covered)
          rw [behind]
          split at met
          · exact ih met
          · next other _ =>
            split at met
            · cases met
            · split at met
              · cases met
              · have fewer : (if slot.name ∈ other.name :: filled then 0 else 1) ≤
                    if slot.name ∈ filled then 0 else 1 := by
                  grind
                exact Nat.le_trans (ih met) fewer

/-- If the members are met without a problem, a member that fills a slot is the only one. -/
theorem Owns.membersNamed_eq_of_meet (owns : Owns slots slot)
    (met : meet slots access [] members = .ok ()) {member : String × Json}
    (isMember : member ∈ members) (covered : slot.covers member.1 = true) :
    membersNamed slot.covers members = [member] := by
  have once := owns.length_le_of_meet met
  have fills : member ∈ membersNamed slot.covers members := mem_membersNamed.mpr ⟨isMember, covered⟩
  rw [if_neg List.not_mem_nil] at once
  obtain ⟨only, isOnly⟩ :=
    List.length_eq_one_iff.mp (Nat.le_antisymm once (List.length_pos_of_mem fills))
  rw [isOnly] at fills ⊢
  rw [List.mem_singleton.mp fills]

end Slot

/-- In members that are met without a problem, a field is read from the one that fills its slot. -/
theorem Record.read_named_of_meet {α : Type} {field : Field α} {slots : List Slot}
    {access : Access} {members : List (String × Json)} (owns : Slot.Owns slots field.slot)
    (met : Slot.meet slots access [] members = .ok ()) {member : String × Json}
    (isMember : member ∈ members) (covered : field.covers member.1 = true) (position : Nat) :
    (Record.named access members).read position field = field.decode access member.2 := by
  have alone : membersNamed field.covers members = [member] :=
    owns.membersNamed_eq_of_meet met isMember covered
  rw [Record.read, ← head?_membersNamed, alone]
  rfl

/-- The parts of a record that was read: each field is read from the value in its place. -/
theorem Record.exists_of_decode_eq_ok {α : Type} {title : String} {slots : List Slot}
    {build : Record → Except Problem α} {access : Access} {json : Json} {value : α}
    (decoded : Record.decode title slots build access json = .ok value) :
    ∃ record, build record = .ok value ∧
      ∀ {β : Type} (field : Field β) (position : Nat) (given : Json), Slot.Owns slots field.slot →
        json.HasField (field.name :: field.otherNames) position given →
        record.read position field = field.decode access given := by
  cases json with
  | object members =>
      rw [Record.decode] at decoded
      split at decoded
      · cases decoded
      · next met =>
        refine ⟨_, decoded, ?_⟩
        intro β field position given owns held
        cases held with
        | @member name _ _ named isMember =>
            have covered : field.covers name = true := by
              rw [field.covers_eq_contains]
              exact List.contains_iff_mem.mpr named
            exact Record.read_named_of_meet owns met isMember covered position
  | array items =>
      rw [Record.decode] at decoded
      split at decoded
      · cases decoded
      · next read built =>
        split at decoded
        · cases decoded
        · cases decoded
          refine ⟨_, built, ?_⟩
          intro β field position given owns held
          cases held with
          | item isItem =>
              rw [Record.read, isItem]
  | null => cases decoded
  | bool => cases decoded
  | int => cases decoded
  | float => cases decoded
  | string => cases decoded

end TaskBoard
