import Mathlib.Data.List.Nodup
import TaskBoard.Decode.Record

/-!
# Records given by the members of an object

`Field.Gives` says that the members of an object give a value of a field: one
member has a name of the field and denotes the value, or none has and the value
stands in for the field.  An object whose members give a value of every field is
read as the record of these values, in whatever order the members stand and
whatever other members there are.
-/

namespace TaskBoard

open Decode

/-- The members of an object whose names meet a test. -/
def membersNamed (test : String → Bool) (members : List (String × Json)) : List (String × Json) :=
  members.filter fun member => test member.1

section Named

variable {test : String → Bool} {member : String × Json} {members others : List (String × Json)}

theorem mem_membersNamed :
    member ∈ membersNamed test members ↔ member ∈ members ∧ test member.1 = true :=
  List.mem_filter

theorem membersNamed_cons_of_pos (met : test member.1 = true) :
    membersNamed test (member :: members) = member :: membersNamed test members :=
  List.filter_cons_of_pos met

theorem membersNamed_eq_nil_iff :
    membersNamed test members = [] ↔ ∀ member ∈ members, test member.1 = false := by
  simp [membersNamed]

theorem head?_membersNamed :
    (membersNamed test members).head? = members.find? fun member => test member.1 :=
  List.head?_filter

theorem membersNamed_perm (test : String → Bool) (reordered : members.Perm others) :
    (membersNamed test members).Perm (membersNamed test others) :=
  reordered.filter _

end Named

variable {α : Type} {access : Access} {members : List (String × Json)}

namespace Slot

/-- Meeting the members, a slot is filled at most once and only with what it accepts. -/
structure Fits (access : Access) (members : List (String × Json)) (slot : Slot) : Prop where
  once : (membersNamed slot.covers members).length ≤ 1
  accepted : ∀ member ∈ members, slot.covers member.1 = true →
    slot.accept access member.2 = .ok ()

theorem Fits.tail {slot : Slot} {member : String × Json}
    (fits : slot.Fits access (member :: members)) : slot.Fits access members where
  once := Nat.le_trans ((List.sublist_cons_self member members).filter _).length_le fits.once
  accepted := fun other isMember => fits.accepted other (List.mem_cons_of_mem member isMember)

/-- Behind the member that fills a slot, no member does. -/
theorem Fits.covers_eq_false_of_head {slot : Slot} {member : String × Json}
    (fits : slot.Fits access (member :: members)) (covered : slot.covers member.1 = true) :
    ∀ other ∈ members, slot.covers other.1 = false := by
  have once := fits.once
  rw [membersNamed_cons_of_pos covered, List.length_cons] at once
  rw [← membersNamed_eq_nil_iff, ← List.length_eq_zero_iff]
  exact Nat.le_zero.mp (Nat.le_of_succ_le_succ once)

/-- If the members fit every slot, they are met without a problem. -/
theorem meet_eq_ok {slots : List Slot} (distinct : (slots.map Slot.name).Nodup)
    {filled : List String} (fits : ∀ slot ∈ slots, slot.Fits access members)
    (unused : ∀ slot ∈ slots, slot.name ∈ filled →
      ∀ member ∈ members, slot.covers member.1 = false) :
    meet slots access filled members = .ok () := by
  induction members generalizing filled with
  | nil => rfl
  | cons member rest ih =>
      have fitsRest : ∀ slot ∈ slots, slot.Fits access rest :=
        fun slot isSlot => (fits slot isSlot).tail
      have unusedRest : ∀ slot ∈ slots, slot.name ∈ filled →
          ∀ other ∈ rest, slot.covers other.1 = false :=
        fun slot isSlot isFilled other isMember =>
          unused slot isSlot isFilled other (List.mem_cons_of_mem member isMember)
      rw [meet]
      cases found : slots.find? fun slot => slot.covers member.1 with
      | none => exact ih fitsRest unusedRest
      | some slot =>
          have isSlot : slot ∈ slots := List.mem_of_find?_eq_some found
          have covered : slot.covers member.1 = true :=
            List.find?_some (p := fun slot : Slot => slot.covers member.1) found
          have unfilled : filled.contains slot.name = false := by
            rw [Bool.eq_false_iff, Ne, List.contains_iff_mem]
            intro isFilled
            have uncovered := unused slot isSlot isFilled member List.mem_cons_self
            rw [covered] at uncovered
            contradiction
          have accepted := (fits slot isSlot).accepted member List.mem_cons_self covered
          simp only [unfilled, accepted, Bool.false_eq_true, if_false]
          apply ih fitsRest
          intro other isOther isFilled
          rcases List.mem_cons.mp isFilled with sameName | isFilled
          · have same : other = slot := List.inj_on_of_nodup_map distinct isOther isSlot sameName
            subst same
            exact (fits other isSlot).covers_eq_false_of_head covered
          · exact unusedRest other isOther isFilled

end Slot

/-- The members of an object give a value of a field. -/
inductive Field.Gives (field : Field α) (access : Access) (members : List (String × Json))
    (value : α) : Prop where
  | present {member : String × Json} : membersNamed field.covers members = [member] →
      field.decode access member.2 = .ok value → Gives field access members value
  | absent : membersNamed field.covers members = [] → field.ifAbsent = some value →
      Gives field access members value

namespace Field.Gives

variable {field : Field α} {value : α}

/-- The field of the record is the value that the members give. -/
theorem read_eq_ok (gives : field.Gives access members value) (position : Nat) :
    (Record.named access members).read position field = .ok value := by
  rw [Record.read, ← head?_membersNamed]
  cases gives with
  | present alone decoded =>
      rw [alone]
      exact decoded
  | absent none standsIn =>
      rw [none]
      dsimp only [List.head?_nil]
      rw [standsIn]

theorem fits (gives : field.Gives access members value) : field.slot.Fits access members := by
  cases gives with
  | @present only alone decoded =>
      refine ⟨Nat.le_of_eq (congrArg List.length alone), ?_⟩
      intro member isMember covered
      have isOnly : member ∈ membersNamed field.covers members :=
        mem_membersNamed.mpr ⟨isMember, covered⟩
      rw [alone, List.mem_singleton] at isOnly
      subst isOnly
      exact congrArg (Except.map fun _ => ()) decoded
  | absent none standsIn =>
      refine ⟨Nat.le_trans (Nat.le_of_eq (congrArg List.length none)) (Nat.zero_le 1), ?_⟩
      intro member isMember covered
      have uncovered := membersNamed_eq_nil_iff.mp none member isMember
      exact absurd covered (Bool.eq_false_iff.mp uncovered)

end Field.Gives

/-! ### Fields that are written -/

/-- One member has one of the names, and its value has a form. -/
def WritesField (names : List String) (form : Json → Prop) (members : List (String × Json)) :
    Prop :=
  ∃ name value, membersNamed names.contains members = [(name, value)] ∧ form value

/-- No member has one of the names. -/
def LacksField (names : List String) (members : List (String × Json)) : Prop :=
  membersNamed names.contains members = []

section Field

variable (field : Field α)

theorem Field.covers_eq_contains : field.covers = (field.name :: field.otherNames).contains := by
  funext name
  rw [Field.covers, List.contains_cons]

/-- A field that is written in a readable form gives what the form denotes. -/
theorem WritesField.exists_gives {form : Json → Prop} {Denoted : α → Prop}
    (written : WritesField (field.name :: field.otherNames) form members)
    (readable : ∀ json, form json → ∃ raw, field.decode access json = .ok raw ∧ Denoted raw) :
    ∃ raw, field.Gives access members raw ∧ Denoted raw := by
  obtain ⟨name, json, alone, inForm⟩ := written
  obtain ⟨raw, decoded, denoted⟩ := readable json inForm
  rw [← field.covers_eq_contains] at alone
  exact ⟨raw, .present alone decoded, denoted⟩

theorem WritesField.gives {json : Json} {raw : α}
    (written : WritesField (field.name :: field.otherNames) (· = json) members)
    (decoded : field.decode access json = .ok raw) : field.Gives access members raw := by
  obtain ⟨_, gives, rfl⟩ :=
    written.exists_gives field fun _ same => ⟨raw, same ▸ decoded, rfl⟩
  exact gives

theorem LacksField.gives {raw : α} (lacking : LacksField (field.name :: field.otherNames) members)
    (standsIn : field.ifAbsent = some raw) : field.Gives access members raw := by
  rw [LacksField, ← field.covers_eq_contains] at lacking
  exact .absent lacking standsIn

end Field

theorem WritesField.perm {names : List String} {form : Json → Prop}
    {members others : List (String × Json)} (written : WritesField names form members)
    (reordered : members.Perm others) : WritesField names form others := by
  obtain ⟨name, value, alone, inForm⟩ := written
  have same := membersNamed_perm names.contains reordered
  rw [alone] at same
  exact ⟨name, value, List.perm_singleton.mp same.symm, inForm⟩

theorem LacksField.perm {names : List String} {members others : List (String × Json)}
    (lacking : LacksField names members) (reordered : members.Perm others) :
    LacksField names others := by
  have same := membersNamed_perm names.contains reordered
  rw [lacking] at same
  exact List.perm_nil.mp same.symm

/-! ### Records -/

/-- A record is read from an object whose members fit its slots. -/
theorem Record.decode_object_eq_ok {slots : List Slot} (distinct : (slots.map Slot.name).Nodup)
    (fits : ∀ slot ∈ slots, slot.Fits access members) {title : String}
    {build : Record → Except Problem α} {value : α}
    (built : build (.named access members) = .ok value) :
    Record.decode title slots build access (.object members) = .ok value := by
  have met : Slot.meet slots access [] members = .ok () :=
    Slot.meet_eq_ok distinct fits fun _ _ isFilled => nomatch isFilled
  rw [Record.decode, met]
  exact built

end TaskBoard
