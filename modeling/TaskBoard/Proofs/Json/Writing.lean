import TaskBoard.Proofs.Json.Reading

/-!
# JSON that is written and read

A value whose numbers are whole and have sixty-four bits, and which is not nested too
deeply, is read from its compact text and from its text over several lines.
-/

namespace TaskBoard.Json

variable {space text : List Char} {depth : Nat}

/-- A value with whole numbers of sixty-four bits only and with at most a number of levels
of nesting. -/
inductive Legible : (depth : Nat) → Json → Prop where
  | null {depth : Nat} : Legible depth .null
  | bool {depth : Nat} (value : Bool) : Legible depth (.bool value)
  | int {depth : Nat} {value : Int} : -9223372036854775808 ≤ value →
      value ≤ 18446744073709551615 → Legible depth (.int value)
  | string {depth : Nat} (value : String) : Legible depth (.string value)
  | array {depth : Nat} {items : List Json} : (∀ item ∈ items, Legible depth item) →
      Legible (depth + 1) (.array items)
  | object {depth : Nat} {members : List (String × Json)} :
      (∀ member ∈ members, Legible depth member.2) → Legible (depth + 1) (.object members)

theorem compactItems_eq_map (items : List Json) : compactItems items = items.map compact := by
  induction items with
  | nil => rfl
  | cons item rest ih => rw [compactItems, ih, List.map_cons]

theorem compactMembers_eq_map (members : List (String × Json)) : compactMembers members =
    members.map fun member => stringText member.1 ++ ":" ++ member.2.compact := by
  induction members with
  | nil => rfl
  | cons member rest ih => rw [compactMembers, ih, List.map_cons]

theorem prettyItems_eq_map (level : Nat) (items : List Json) :
    prettyItems level items = items.map (prettyAt level) := by
  induction items with
  | nil => rfl
  | cons item rest ih => rw [prettyItems, ih, List.map_cons]

theorem prettyMembers_eq_map (level : Nat) (members : List (String × Json)) :
    prettyMembers level members =
      members.map fun member => stringText member.1 ++ ": " ++ member.2.prettyAt level := by
  induction members with
  | nil => rfl
  | cons member rest ih => rw [prettyMembers, ih, List.map_cons]

namespace Spells

theorem spaces {json : Json} (blank : ∀ character ∈ space, IsSpace character)
    (spells : Spells depth json text) : Spells depth json (space ++ text) := by
  induction space with
  | nil => exact spells
  | cons first others ih =>
      rw [List.forall_mem_cons] at blank
      exact .space blank.1 (ih blank.2)

/-- Items that are spelled one after the other spell an array. -/
theorem array_map (space : List Char) (write : Json → List Char) {items : List Json}
    (nonempty : items ≠ []) (spelled : ∀ item ∈ items, Spells depth item (write item))
    (blank : ∀ character ∈ space, IsSpace character) :
    Spells (depth + 1) (.array items) (bracket '[' ']' space (items.map write)) := by
  let pieces : List (Json × List Char) := items.map fun item => (item, write item)
  have values : pieces.map Prod.fst = items := by simp [pieces, Function.comp_def]
  have texts : pieces.map Prod.snd = items.map write := by simp [pieces]
  have some : pieces ≠ [] := by simpa [pieces] using nonempty
  have all : ∀ piece ∈ pieces, Spells depth piece.1 piece.2 := by simpa [pieces] using spelled
  rw [← texts]
  have array := Spells.array some all blank
  rwa [values] at array

/-- Members that are spelled one after the other spell an object. -/
theorem object_map (before space : List Char) (write : Json → List Char)
    {members : List (String × Json)} (nonempty : members ≠ [])
    (spelled : ∀ member ∈ members, Spells depth member.2 (write member.2))
    (blankBefore : ∀ character ∈ before, IsSpace character)
    (blank : ∀ character ∈ space, IsSpace character) :
    Spells (depth + 1) (.object members) (bracket '\x7b' '\x7d' space
      (members.map fun member =>
        before ++ ((stringText member.1).toList ++ ':' :: write member.2))) := by
  let pieces : List MemberText :=
    members.map fun member => ⟨before, member.1, member.2, write member.2⟩
  have values : pieces.map MemberText.member = members := by
    simp [pieces, Function.comp_def, MemberText.member]
  have texts : pieces.map MemberText.characters = members.map fun member =>
      before ++ ((stringText member.1).toList ++ ':' :: write member.2) := by
    simp [pieces, Function.comp_def, MemberText.characters]
  have some : pieces ≠ [] := by simpa [pieces] using nonempty
  have all : ∀ piece ∈ pieces, Spells depth piece.value piece.text := by
    intro piece isPiece
    obtain ⟨member, isMember, rfl⟩ := List.mem_map.mp isPiece
    exact spelled member isMember
  have blanks : ∀ piece ∈ pieces, ∀ character ∈ piece.space, IsSpace character := by
    intro piece isPiece
    obtain ⟨member, _, rfl⟩ := List.mem_map.mp isPiece
    exact blankBefore
  rw [← texts]
  have object := Spells.object some all blanks blank
  rwa [values] at object

end Spells

/-- The compact text of a value spells it. -/
theorem Legible.spells_compact {json : Json} (legible : Legible depth json) :
    Spells depth json json.compact.toList := by
  induction legible with
  | null => exact .null
  | bool value =>
      cases value
      · exact .false
      · exact .true
  | int lower upper => exact .int lower upper
  | string value => exact .string value
  | @array _ items _ ih =>
      by_cases empty : items = []
      · subst empty
        exact .emptyArray
      · have spelled := Spells.array_map [] (fun item => item.compact.toList) empty ih nofun
        simpa [bracket, compact, compactItems_eq_map, Function.comp_def] using spelled
  | @object _ members _ ih =>
      by_cases empty : members = []
      · subst empty
        exact .emptyObject
      · have spelled :=
          Spells.object_map [] [] (fun value => value.compact.toList) empty ih nofun nofun
        simpa [bracket, compact, compactMembers_eq_map, Function.comp_def] using spelled

theorem toList_newLine (level : Nat) :
    (newLine level).toList = '\n' :: List.replicate (2 * level) ' ' := by
  simp [newLine]

theorem isSpace_of_mem_newLine (level : Nat) :
    ∀ character ∈ (newLine level).toList, IsSpace character := by
  intro character member
  rw [toList_newLine] at member
  rcases List.mem_cons.mp member with rfl | indentation
  · decide
  · exact .inl (List.eq_of_mem_replicate indentation)

/-- The same text before each of some texts can be counted to what stands between them. -/
theorem append_intercalate (before : List Char) {texts : List (List Char)} (nonempty : texts ≠ []) :
    before ++ (',' :: before).intercalate texts = [','].intercalate (texts.map (before ++ ·)) := by
  induction texts with
  | nil => exact absurd rfl nonempty
  | cons text others ih =>
      cases others with
      | nil => simp
      | cons second others =>
          have behind := ih (List.cons_ne_nil _ _)
          simp only [List.map_cons] at behind
          simp [← behind]

/-- Lines between brackets. -/
theorem toList_block {lines : List String} (nonempty : lines ≠ []) (opening closing : Char)
    (level : Nat) :
    (block (String.singleton opening) (String.singleton closing) level lines).toList =
      bracket opening closing (newLine level).toList
        (lines.map fun line => (newLine (level + 1)).toList ++ line.toList) := by
  have some : lines.isEmpty = false := by simpa using nonempty
  have texts : lines.map String.toList ≠ [] := by simpa using nonempty
  have moved := append_intercalate (newLine (level + 1)).toList texts
  rw [List.map_map] at moved
  have comma : ("," ++ newLine (level + 1)).toList = ',' :: (newLine (level + 1)).toList := by simp
  rw [block, some, if_neg Bool.false_ne_true]
  simp only [String.toList_append, String.toList_singleton, String.toList_intercalate, comma,
    bracket, List.append_assoc, List.cons_append, List.nil_append]
  rw [← List.append_assoc (newLine (level + 1)).toList, moved]
  rfl

/-- The text of a value over several lines spells it. -/
theorem Legible.spells_prettyAt {json : Json} (legible : Legible depth json) (level : Nat) :
    Spells depth json (json.prettyAt level).toList := by
  induction legible generalizing level with
  | null => exact .null
  | bool value =>
      cases value
      · exact .false
      · exact .true
  | int lower upper => exact .int lower upper
  | string value => exact .string value
  | @array _ items _ ih =>
      by_cases empty : items = []
      · subst empty
        exact .emptyArray
      · have lines : prettyItems (level + 1) items ≠ [] := by
          simpa [prettyItems_eq_map] using empty
        have spelled := Spells.array_map (newLine level).toList
          (fun item => (newLine (level + 1)).toList ++ (item.prettyAt (level + 1)).toList) empty
          (fun item isItem => (ih item isItem (level + 1)).spaces (isSpace_of_mem_newLine _))
          (isSpace_of_mem_newLine level)
        have text := toList_block lines '[' ']' level
        rw [prettyItems_eq_map, List.map_map] at text
        rw [prettyAt, prettyItems_eq_map]
        exact text ▸ spelled
  | @object _ members _ ih =>
      by_cases empty : members = []
      · subst empty
        exact .emptyObject
      · have lines : prettyMembers (level + 1) members ≠ [] := by
          simpa [prettyMembers_eq_map] using empty
        have spelled := Spells.object_map (newLine (level + 1)).toList (newLine level).toList
          (fun value => ' ' :: (value.prettyAt (level + 1)).toList) empty
          (fun member isMember => .space (.inl rfl) (ih member isMember (level + 1)))
          (isSpace_of_mem_newLine _) (isSpace_of_mem_newLine level)
        have text := toList_block lines '\x7b' '\x7d' level
        rw [prettyMembers_eq_map, List.map_map] at text
        rw [prettyAt, prettyMembers_eq_map]
        refine Eq.mpr (congrArg (Spells _ _) text) ?_
        simpa [Function.comp_def] using spelled

/-- What is written for a legible value is read as the value. -/
theorem Legible.read? {json : Json} (legible : Legible depth json) (deep : depth ≤ nestingLimit) :
    Json.read? json.compact = some json ∧ Json.read? json.pretty = some json :=
  ⟨legible.spells_compact.read?_eq_some deep, (legible.spells_prettyAt 0).read?_eq_some deep⟩

end TaskBoard.Json
