import TaskBoard.Number.Double

/-!
# JSON values

Whole numbers are kept exactly and apart from other numbers.  An object is the
list of its members in the order in which they are written; `Json.sorted` is the
form with ascending names, in which the last of equal names has won.
-/

namespace TaskBoard

/-- A JSON value. -/
inductive Json where
  | null
  | bool (value : Bool)
  | int (value : Int)
  | float (negative : Bool) (magnitude : Double)
  | string (value : String)
  | array (items : List Json)
  | object (members : List (String × Json))
  deriving Inhabited

namespace Json

/-- A natural number as a JSON value. -/
def nat (value : Nat) : Json := .int value

/-- A value that may be absent, which `null` stands for. -/
def ofOption {α : Type} (write : α → Json) : Option α → Json
  | none => .null
  | some value => write value

/-- The member of a name; the last one where a name is repeated. -/
def member? (name : String) (members : List (String × Json)) : Option Json :=
  (members.reverse.find? fun member => member.1 == name).map Prod.snd

/-- The member of a name in an object; `null` where there is none. -/
def member (name : String) : Json → Json
  | .object members => (member? name members).getD .null
  | _ => .null

/-- Put a member among members with ascending names, in place of one with the same name. -/
def insertMember (name : String) (value : Json) :
    List (String × Json) → List (String × Json)
  | [] => [(name, value)]
  | (other, kept) :: rest =>
      if name < other then (name, value) :: (other, kept) :: rest
      else if name = other then (name, value) :: rest
      else (other, kept) :: insertMember name value rest

mutual

/-- The value with the members of every object sorted by name. -/
def sorted : Json → Json
  | .array items => .array (sortedItems items)
  | .object members => .object (sortedMembers members [])
  | other => other

/-- The items of an array, each sorted. -/
def sortedItems : List Json → List Json
  | [] => []
  | item :: rest => item.sorted :: sortedItems rest

/-- The members of an object, each sorted, put in order among those `done`. -/
def sortedMembers : List (String × Json) → List (String × Json) → List (String × Json)
  | [], done => done
  | (name, value) :: rest, done => sortedMembers rest (insertMember name value.sorted done)

end

/-- A member of a new name is put among the others. -/
theorem insertMember_perm {name : String} {members : List (String × Json)}
    (new : name ∉ members.map Prod.fst) (value : Json) :
    (insertMember name value members).Perm ((name, value) :: members) := by
  induction members with
  | nil => exact .refl _
  | cons member rest ih =>
      rw [List.map_cons, List.mem_cons, not_or] at new
      rw [insertMember]
      split
      · exact .refl _
      · rw [if_neg new.1]
        exact ((ih new.2).cons member).trans (.swap _ _ rest)

/-- Sorting members of different names changes their order, and sorts their values. -/
theorem sortedMembers_perm {members done : List (String × Json)}
    (distinct : ((members ++ done).map Prod.fst).Nodup) :
    (sortedMembers members done).Perm
      (members.map (fun member => (member.1, member.2.sorted)) ++ done) := by
  induction members generalizing done with
  | nil => exact .refl _
  | cons member rest ih =>
      rw [List.cons_append, List.map_cons, List.nodup_cons] at distinct
      have new : member.1 ∉ done.map Prod.fst := by
        intro old
        rw [List.map_append] at distinct
        exact distinct.1 (List.mem_append_right _ old)
      have moved := insertMember_perm new member.2.sorted
      have inOrder : (rest ++ insertMember member.1 member.2.sorted done).Perm
          ((member.1, member.2.sorted) :: (rest ++ done)) :=
        (moved.append_left rest).trans List.perm_middle
      have step := ih ((inOrder.map Prod.fst).nodup_iff.mpr (List.nodup_cons.mpr distinct))
      rw [sortedMembers]
      exact step.trans ((moved.append_left _).trans List.perm_middle)

/-- An object of sorted values is sorted by reordering its members. -/
theorem sortedMembers_perm_of_sorted {members : List (String × Json)}
    (distinct : (members.map Prod.fst).Nodup)
    (values : ∀ member ∈ members, member.2.sorted = member.2) :
    (sortedMembers members []).Perm members := by
  have unchanged : members.map (fun member => (member.1, member.2.sorted)) = members :=
    calc
      members.map (fun member => (member.1, member.2.sorted)) = members.map fun member => member :=
        List.map_congr_left fun member isMember =>
          congrArg (Prod.mk member.1) (values member isMember)
      _ = members := List.map_id' members
  have reordered : (sortedMembers members []).Perm
      (members.map (fun member => (member.1, member.2.sorted)) ++ []) :=
    sortedMembers_perm (by rwa [List.append_nil])
  rwa [unchanged, List.append_nil] at reordered

end Json

end TaskBoard
