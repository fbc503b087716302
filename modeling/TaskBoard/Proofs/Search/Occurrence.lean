import TaskBoard.Search.Needle

/-!
# Occurrences of a needle

A text contains a needle if the lower-cased needle is a part of the lower-cased
text.  The place where a search finds it is the first one: the text before the
place does not contain the needle, and the text at the place does.
-/

namespace TaskBoard

namespace Needle

/-- A pattern that occurs at some position has a first occurrence. -/
theorem firstIndex?_isSome_iff {pattern text : List Char} :
    (firstIndex? pattern text).isSome = true ↔ pattern <:+: text := by
  constructor
  · intro found
    obtain ⟨index, isFirst⟩ := Option.isSome_iff_exists.mp found
    obtain ⟨_, occurs, _⟩ := firstIndex?_eq_some_iff.mp isFirst
    exact occurs.isInfix.trans (List.drop_suffix index text).isInfix
  · intro occurs
    induction text with
    | nil => rw [List.eq_nil_of_infix_nil occurs]; rfl
    | cons character rest ih =>
        rw [firstIndex?]
        split
        · rfl
        · next notHere =>
          rw [List.isPrefixOf_iff_prefix] at notHere
          rw [Option.isSome_map]
          exact ih ((List.infix_cons_iff.mp occurs).resolve_left notHere)

/-- A text contains a needle whose lower-case form is a part of its own. -/
theorem isIn_iff {needle : Needle} {text : List Char} :
    needle.isIn text = true ↔ needle.lowered <:+: Text.lowerChars text :=
  firstIndex?_isSome_iff

/-- A needle that the text contains is found at a place of it. -/
theorem firstIn?_isSome (needle : Needle) (text : List Char) :
    (needle.firstIn? text).isSome = needle.isIn text := by
  rw [isIn]
  cases found : firstIndex? needle.lowered (Text.lowerChars text) with
  | none => simp [firstIn?, found]
  | some index =>
      obtain ⟨place, isPlace⟩ := exists_firstIn?_eq_some found
      rw [isPlace]
      rfl

theorem firstIn?_eq_none_iff {needle : Needle} {text : List Char} :
    needle.firstIn? text = none ↔ needle.isIn text = false := by
  rw [← firstIn?_isSome, Option.isSome_eq_false_iff, Option.isNone_iff_eq_none]

/-- A pattern that begins and ends in the middle part of a text occurs there. -/
theorem isInfix_middle {pattern left middle right : List Char} {index : Nat}
    (occurs : pattern <+: (left ++ (middle ++ right)).drop index) (begins : left.length ≤ index)
    (ends : index + pattern.length ≤ left.length + middle.length) : pattern <:+: middle := by
  rw [List.drop_append, List.drop_of_length_le begins, List.nil_append,
    List.drop_append_of_le_length (by omega)] at occurs
  have inMiddle : pattern <+: middle.drop (index - left.length) := by
    refine List.prefix_of_prefix_length_le occurs (List.prefix_append _ _) ?_
    rw [List.length_drop]
    omega
  exact inMiddle.isInfix.trans (List.drop_suffix _ _).isInfix

section Found

variable {needle : Needle} {text : List Char} {first stop : Nat}
variable (found : needle.firstIn? text = some (first, stop))
include found

/-- The text before the first place does not contain the needle. -/
theorem isIn_take_of_firstIn? : needle.isIn (text.take first) = false := by
  obtain ⟨index, last, isFirst, rfl, begins, _, _, _⟩ := firstIn?_eq_some_iff.mp found
  obtain ⟨_, _, least⟩ := firstIndex?_eq_some_iff.mp isFirst
  rw [Bool.eq_false_iff]
  intro contained
  obtain ⟨front, back, split⟩ := isIn_iff.mp contained
  have positive := needle.length_lowered_pos
  have width := congrArg List.length split
  simp only [List.length_append] at width
  refine least front.length (by omega) ⟨back ++ Text.lowerChars (text.drop first), ?_⟩
  rw [← List.take_append_drop first text, Text.lowerChars_append, ← split, List.take_append_drop]
  simp

/-- The text at the first place contains the needle. -/
theorem isIn_found_of_firstIn? : needle.isIn ((text.take stop).drop first) = true := by
  have ordered := Nat.le_of_lt (bounds_of_firstIn? found).1
  obtain ⟨index, last, isFirst, rfl, begins, _, _, ends⟩ := firstIn?_eq_some_iff.mp found
  obtain ⟨_, occurs, _⟩ := firstIndex?_eq_some_iff.mp isFirst
  rw [← pieces_at text ordered, Text.lowerChars_append, Text.lowerChars_append] at occurs
  rw [take_eq_append_drop text ordered, Text.lowerChars_append, List.length_append] at ends
  have positive := needle.length_lowered_pos
  exact isIn_iff.mpr (isInfix_middle occurs begins (by omega))

end Found

theorem exists_of?_eq_some {pattern : List Char} (nonempty : pattern ≠ []) :
    ∃ needle, of? pattern = some needle := by
  have lowered : Text.lowerChars pattern ≠ [] := mt Text.lowerChars_eq_nil.mp nonempty
  exact ⟨⟨Text.lowerChars pattern, lowered⟩, dif_pos lowered⟩

theorem lowered_of_of? {pattern : List Char} {needle : Needle}
    (isNeedle : of? pattern = some needle) : needle.lowered = Text.lowerChars pattern := by
  unfold of? at isNeedle
  split at isNeedle
  · cases isNeedle
    rfl
  · cases isNeedle

theorem containsIgnoringCase_eq_isIn {pattern : List Char} {needle : Needle}
    (isNeedle : of? pattern = some needle) (text : List Char) :
    containsIgnoringCase text pattern = needle.isIn text := by
  rw [containsIgnoringCase, isNeedle]

end Needle

end TaskBoard
