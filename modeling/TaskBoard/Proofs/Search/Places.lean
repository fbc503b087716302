import TaskBoard.Proofs.Search.Occurrence

/-!
# Places of a needle

Where a text contains a needle from a byte offset on, the search gives the offsets
around the characters whose lower-case forms take part in the first occurrence, and no
others.  It never fails at the boundary of a character, and it finds a place from the
beginning on exactly if the filter finds the needle.
-/

namespace TaskBoard

namespace Needle

/-- A pattern occurs in a text behind `index` characters and nowhere before. -/
structure OccursFirst (pattern text : List Char) (index : Nat) : Prop where
  occurs : pattern <+: text.drop index
  least : ∀ earlier < index, ¬ pattern <+: text.drop earlier

/-- The lower-case form of the character at a position of a text takes up some of the
characters from `start` on and before `stop` in the lower-case form of the text. -/
def TakesPart (text : List Char) (start stop position : Nat) : Prop :=
  ∃ index, start ≤ index ∧ index < stop ∧
    (Text.lowerChars (text.take position)).length ≤ index ∧
    index < (Text.lowerChars (text.take (position + 1))).length

/-- The byte offsets `first` and `stop` in a text, from the boundary behind `front` on, are
around the characters whose lower-case forms take part in an occurrence. -/
structure Encloses (front rest : List Char) (occurrence : Nat × Nat) (first stop : Nat) :
    Prop where
  behind : Text.byteLength front ≤ first
  proper : first < stop
  within : stop ≤ Text.byteLength (front ++ rest)
  firstBoundary : (Text.dropBytes? (front ++ rest) first).isSome = true
  stopBoundary : (Text.dropBytes? (front ++ rest) stop).isSome = true
  encloses : ∀ position < rest.length,
    (first ≤ Text.byteLength (front ++ rest.take position) ∧
        Text.byteLength (front ++ rest.take (position + 1)) ≤ stop ↔
      TakesPart rest occurrence.1 occurrence.2 position)

theorem occursFirst_of_firstIndex? {pattern text : List Char} {index : Nat}
    (found : firstIndex? pattern text = some index) : OccursFirst pattern text index := by
  obtain ⟨_, occurs, least⟩ := firstIndex?_eq_some_iff.mp found
  exact ⟨occurs, least⟩

/-- Every character of a text has a lower-case form. -/
theorem length_lowerChars_take_lt {text : List Char} {position : Nat}
    (within : position < text.length) :
    (Text.lowerChars (text.take position)).length <
      (Text.lowerChars (text.take (position + 1))).length := by
  have form := List.length_pos_iff.mpr (Text.lowerChar_ne_nil text[position])
  rw [List.take_succ_eq_append_getElem within, Text.lowerChars_append, List.length_append]
  simpa using form

section Found

variable {needle : Needle} {text : List Char} {index first last : Nat}
variable (occurs : firstIndex? needle.lowered (Text.lowerChars text) = some index)
variable (found : needle.firstIn? text = some (first, last + 1))
include occurs found

/-- The characters of the first place are those that take part in the first occurrence. -/
theorem takesPart_iff {position : Nat} (within : position < text.length) :
    TakesPart text index (index + needle.lowered.length) position ↔
      first ≤ position ∧ position ≤ last := by
  obtain ⟨_, _, same, isLast, firstBegins, firstEnds, lastBegins, lastEnds⟩ :=
    firstIn?_eq_some_iff.mp found
  cases occurs.symm.trans same
  obtain rfl := Nat.succ.inj isLast
  have positive := needle.length_lowered_pos
  constructor
  · rintro ⟨shared, begins, ends, lower, upper⟩
    constructor
    · apply Nat.le_of_not_lt
      intro before
      have := @length_lowerChars_take_le text (position + 1) first before
      omega
    · apply Nat.le_of_not_lt
      intro behind
      have := @length_lowerChars_take_le text (last + 1) position behind
      omega
  · rintro ⟨notBefore, notBehind⟩
    -- What is shared begins where the later of the two begins.
    have fromFirst :=
      @length_lowerChars_take_le text (first + 1) (position + 1) (Nat.succ_le_succ notBefore)
    have toLast := length_lowerChars_take_le text notBehind
    have form := length_lowerChars_take_lt within
    exact ⟨max index (Text.lowerChars (text.take position)).length, by omega, by omega, by omega,
      by omega⟩

/-- The byte offsets of the first place are around the characters that take part in the
first occurrence. -/
theorem encloses_of_firstIn? (front : List Char) :
    Encloses front text (index, index + needle.lowered.length)
      (Text.byteLength front + Text.byteLength (text.take first))
      (Text.byteLength front + Text.byteLength (text.take (last + 1))) := by
  obtain ⟨proper, within⟩ := bounds_of_firstIn? found
  have boundary (count : Nat) : (Text.dropBytes? (front ++ text)
      (Text.byteLength front + Text.byteLength (text.take count))).isSome = true := by
    rw [← Text.byteLength_append, ← List.take_append_drop count text, ← List.append_assoc,
      List.take_append_drop, Text.dropBytes?_append]
    rfl
  have ordered (count more : Nat) (short : count ≤ text.length) :
      Text.byteLength front + Text.byteLength (text.take count) ≤
          Text.byteLength front + Text.byteLength (text.take more) ↔ count ≤ more := by
    rw [Nat.add_le_add_iff_left, Text.byteLength_take_le_iff short]
  refine ⟨Nat.le_add_right _ _, ?_, ?_, boundary first, boundary (last + 1), ?_⟩
  · rw [← Nat.not_le, ordered _ _ within]
    exact Nat.not_le.mpr proper
  · have whole := (ordered (last + 1) text.length within).mpr within
    rw [List.take_length] at whole
    rwa [Text.byteLength_append]
  · intro position inText
    rw [takesPart_iff occurs found inText, Text.byteLength_append, Text.byteLength_append,
      ordered _ _ (by omega), ordered _ _ inText, Nat.succ_le_succ_iff]

end Found

/-- Every text but the empty one is a needle.  From the boundary of a character on, it is
found nowhere exactly if its lower-case form is no part of that of the rest of the text;
else it is found at the offsets around the characters that take part in the first
occurrence.  The filter finds it in a text exactly if it is found from the beginning on. -/
theorem found_around_first_occurrence (pattern front rest : List Char) (nonempty : pattern ≠ []) :
    ∃ needle, of? pattern = some needle ∧
      (needle.findFrom? (front ++ rest) (Text.byteLength front) = some none ↔
        ¬ Text.lowerChars pattern <:+: Text.lowerChars rest) ∧
      (Text.lowerChars pattern <:+: Text.lowerChars rest → ∃ index first stop,
        OccursFirst (Text.lowerChars pattern) (Text.lowerChars rest) index ∧
        needle.findFrom? (front ++ rest) (Text.byteLength front) = some (some (first, stop)) ∧
        Encloses front rest (index, index + (Text.lowerChars pattern).length) first stop) ∧
      (needle.isIn (front ++ rest) = true ↔
        ∃ place, needle.findFrom? (front ++ rest) 0 = some (some place)) := by
  obtain ⟨needle, isNeedle⟩ := exists_of?_eq_some nonempty
  have fromFront := needle.findFrom?_append front rest
  refine ⟨needle, isNeedle, ?_, ?_, ?_⟩
  · rw [fromFront, Option.some_inj, Option.map_eq_none_iff, firstIn?_eq_none_iff,
      Bool.eq_false_iff, ne_eq, isIn_iff, lowered_of_of? isNeedle]
  · rw [← lowered_of_of? isNeedle]
    intro contained
    obtain ⟨index, occurs⟩ := Option.isSome_iff_exists.mp (firstIndex?_isSome_iff.mpr contained)
    obtain ⟨⟨first, stop⟩, found⟩ := exists_firstIn?_eq_some occurs
    obtain ⟨_, last, _, rfl, _⟩ := firstIn?_eq_some_iff.mp found
    rw [found, Option.map_some] at fromFront
    exact ⟨index, _, _, occursFirst_of_firstIndex? occurs, fromFront,
      encloses_of_firstIn? occurs found front⟩
  · have fromStart := needle.findFrom?_append [] (front ++ rest)
    rw [List.nil_append, Text.byteLength_nil] at fromStart
    rw [fromStart, ← firstIn?_isSome]
    simp only [Option.some_inj, ← Option.isSome_iff_exists, Option.isSome_map]

/-- In what follows the first word, an i is found in the dotted capital, whose lower-case
form begins with it; the place is the capital as a whole. -/
theorem found_around_first_occurrence_dotted_i :
    let front := ['B', 'i']
    let rest := ['g', 'İ', 's']
    ['i'] ≠ [] ∧ Text.lowerChars ['i'] <:+: Text.lowerChars rest ∧
      ∃ needle, of? ['i'] = some needle ∧
        needle.findFrom? (front ++ rest) (Text.byteLength front) = some (some (3, 5)) ∧
        Encloses front rest (1, 2) 3 5 ∧ needle.isIn (front ++ rest) = true := by
  intro front rest
  have nonempty : ['i'] ≠ [] := by decide
  have contained : Text.lowerChars ['i'] <:+: Text.lowerChars rest := by decide
  obtain ⟨needle, isNeedle, _, found, isIn⟩ :=
    found_around_first_occurrence ['i'] front rest nonempty
  obtain ⟨index, first, stop, occurs, isPlace, encloses⟩ := found contained
  obtain rfl : index = 1 := by
    have notFirst : index ≠ 0 := by
      rintro rfl
      exact absurd occurs.occurs (by decide)
    have notLater : ¬ 1 < index := fun later => absurd (by decide) (occurs.least 1 later)
    omega
  cases isNeedle
  cases isPlace.symm.trans (show _ = some (some (3, 5)) from rfl)
  exact ⟨nonempty, contained, _, rfl, isPlace, encloses, isIn.mpr ⟨(1, 2), rfl⟩⟩

end Needle

end TaskBoard
