import TaskBoard.Search.FirstIndex
import TaskBoard.Text.Lowercase

/-!
# Searching in texts regardless of case

A needle is searched in the lower-cased text, and a place where it is found is
given in the text itself.  Where a character becomes several when lower-cased, the
whole character belongs to a place that touches any of them.

A text is searched from a byte offset on by its bytes, with a table that leads from
each byte of the lower-cased text back to the character it comes from;
`findFrom?_of_dropBytes?` says that this finds what a search by characters does.
-/

namespace TaskBoard

/-- A text to search for, lower-cased and not empty. -/
structure Needle where
  lowered : List Char
  ne_nil : lowered ≠ []

namespace Needle

/-- The needle for a text, unless the text is empty. -/
def of? (text : List Char) : Option Needle :=
  if nonempty : Text.lowerChars text ≠ [] then some ⟨Text.lowerChars text, nonempty⟩ else none

/-- For each character of the lower-cased text, the position in the text of the
character that it comes from; the text begins at position `start`. -/
def sources : (start : Nat) → List Char → List Nat
  | _, [] => []
  | start, character :: rest =>
      List.replicate (Text.lowerChar character).length start ++ sources (start + 1) rest

/-- Whether a text contains the needle. -/
def isIn (needle : Needle) (text : List Char) : Bool :=
  (firstIndex? needle.lowered (Text.lowerChars text)).isSome

/-- The first place of a text that contains the needle: the position of its
first character and the position after its last one. -/
def firstIn? (needle : Needle) (text : List Char) : Option (Nat × Nat) := do
  let index ← firstIndex? needle.lowered (Text.lowerChars text)
  let first ← (sources 0 text)[index]?
  let last ← (sources 0 text)[index + (needle.lowered.length - 1)]?
  return (first, last + 1)

/-- For each byte of the lower-cased text, the offsets in the text of the character
that it comes from; the text begins at offset `start`. -/
def spans : (start : Nat) → List Char → List (Nat × Nat)
  | _, [] => []
  | start, character :: rest =>
      List.replicate (Text.byteLength (Text.lowerChar character))
          (start, start + character.utf8Size) ++
        spans (start + character.utf8Size) rest

/-- The first place that contains the needle in the text from a byte offset on,
as byte offsets; there is no answer unless the offset is the boundary of a
character and the bytes of the place have a character that they come from. -/
def findFrom? (needle : Needle) (text : List Char) (offset : Nat) : Option (Option (Nat × Nat)) := do
  let rest ← Text.dropBytes? text offset
  let table := spans offset rest
  match firstIndex? (Text.encode needle.lowered) (Text.encode (Text.lowerChars rest)) with
  | none => return none
  | some start =>
      let first ← table[start]?
      let last ← table[start + Text.byteLength needle.lowered - 1]?
      return some (first.1, last.2)

@[simp] theorem length_sources (start : Nat) (text : List Char) :
    (sources start text).length = (Text.lowerChars text).length := by
  induction text generalizing start with
  | nil => rfl
  | cons character rest ih => simp [sources, ih]

/-- The source of a lower-cased character is where the lower-case form of the text
comes to be longer than the position of that character. -/
theorem getElem?_sources_eq_some_iff {start index source : Nat} {text : List Char} :
    (sources start text)[index]? = some source ↔
      ∃ skipped, source = start + skipped ∧
        (Text.lowerChars (text.take skipped)).length ≤ index ∧
        index < (Text.lowerChars (text.take (skipped + 1))).length := by
  induction text generalizing start index with
  | nil => simp
  | cons character rest ih =>
      rw [sources, List.getElem?_append, List.length_replicate]
      split
      · next within =>
        rw [List.getElem?_replicate, if_pos within, Option.some.injEq]
        constructor
        · rintro rfl
          exact ⟨0, rfl, by simp, by simpa using within⟩
        · rintro ⟨_ | skipped, isSource, lower, _⟩
          · exact isSource.symm
          · simp at lower
            omega
      · next behind =>
        rw [ih]
        constructor
        · rintro ⟨skipped, isSource, lower, upper⟩
          refine ⟨skipped + 1, by omega, ?_, ?_⟩ <;> simp <;> omega
        · rintro ⟨_ | skipped, isSource, lower, upper⟩
          · simp at upper
            omega
          · simp at lower upper
            exact ⟨skipped, by omega, by omega, by omega⟩

/-- A longer beginning of a text has no shorter lower-case form. -/
theorem length_lowerChars_take_le (text : List Char) {count more : Nat} (ordered : count ≤ more) :
    (Text.lowerChars (text.take count)).length ≤ (Text.lowerChars (text.take more)).length := by
  obtain ⟨rest, extended⟩ : text.take count <+: text.take more :=
    List.take_prefix_take_left ordered
  rw [← extended, Text.lowerChars_append, List.length_append]
  exact Nat.le_add_right _ _

/-- Where the needle is found, the place begins with the character that the
occurrence begins in and stops behind the one that it ends in. -/
theorem firstIn?_eq_some_iff {needle : Needle} {text : List Char} {first stop : Nat} :
    needle.firstIn? text = some (first, stop) ↔
      ∃ index last, firstIndex? needle.lowered (Text.lowerChars text) = some index ∧
        stop = last + 1 ∧
        (Text.lowerChars (text.take first)).length ≤ index ∧
        index < (Text.lowerChars (text.take (first + 1))).length ∧
        (Text.lowerChars (text.take last)).length ≤ index + (needle.lowered.length - 1) ∧
        index + (needle.lowered.length - 1) < (Text.lowerChars (text.take (last + 1))).length := by
  simp only [firstIn?, Option.bind_eq_bind, Option.bind_eq_some_iff, Option.pure_def,
    Option.some.injEq, Prod.mk.injEq, getElem?_sources_eq_some_iff, Nat.zero_add]
  constructor
  · rintro ⟨index, occurs, _, ⟨_, rfl, lower, upper⟩, _, ⟨last, rfl, lowerLast, upperLast⟩, rfl, rfl⟩
    exact ⟨index, _, occurs, rfl, lower, upper, lowerLast, upperLast⟩
  · rintro ⟨index, last, occurs, rfl, lower, upper, lowerLast, upperLast⟩
    exact ⟨index, occurs, first, ⟨first, rfl, lower, upper⟩, last,
      ⟨last, rfl, lowerLast, upperLast⟩, rfl, rfl⟩

/-- A place that contains the needle is not empty and lies within the text. -/
theorem bounds_of_firstIn? {needle : Needle} {text : List Char} {first stop : Nat}
    (found : needle.firstIn? text = some (first, stop)) : first < stop ∧ stop ≤ text.length := by
  obtain ⟨index, last, _, rfl, lower, _, lowerLast, upperLast⟩ := firstIn?_eq_some_iff.mp found
  constructor
  · apply Nat.lt_of_not_le
    intro before
    have := length_lowerChars_take_le text before
    omega
  · apply Nat.le_of_not_lt
    intro beyond
    rw [List.take_of_length_le (by omega)] at lowerLast upperLast
    omega

theorem take_eq_append_drop (text : List Char) {first stop : Nat} (ordered : first ≤ stop) :
    text.take stop = text.take first ++ (text.take stop).drop first := by
  have shorter : text.take first = (text.take stop).take first := by
    rw [List.take_take, Nat.min_eq_left ordered]
  rw [shorter, List.take_append_drop]

/-- A place cuts a text in three. -/
theorem pieces_at (text : List Char) {first stop : Nat} (ordered : first ≤ stop) :
    text.take first ++ ((text.take stop).drop first ++ text.drop stop) = text := by
  rw [← List.append_assoc, ← take_eq_append_drop text ordered, List.take_append_drop]

theorem found_ne_nil {needle : Needle} {text : List Char} {first stop : Nat}
    (found : needle.firstIn? text = some (first, stop)) : (text.take stop).drop first ≠ [] := by
  obtain ⟨proper, within⟩ := bounds_of_firstIn? found
  rw [← List.length_pos_iff, List.length_drop, List.length_take, Nat.min_eq_left within]
  exact Nat.sub_pos_of_lt proper

theorem length_lowered_pos (needle : Needle) : 0 < needle.lowered.length :=
  List.length_pos_iff.mpr needle.ne_nil

/-- The first occurrence of the needle lies within the lower-cased text. -/
theorem within_of_firstIndex? {needle : Needle} {text : List Char} {index : Nat}
    (occurs : firstIndex? needle.lowered (Text.lowerChars text) = some index) :
    index + needle.lowered.length ≤ (Text.lowerChars text).length := by
  obtain ⟨within, begins, _⟩ := firstIndex?_eq_some_iff.mp occurs
  have fits := begins.length_le
  rw [List.length_drop] at fits
  omega

/-- A needle that occurs in the lower-cased text is found at a place. -/
theorem exists_firstIn?_eq_some {needle : Needle} {text : List Char} {index : Nat}
    (occurs : firstIndex? needle.lowered (Text.lowerChars text) = some index) :
    ∃ place, needle.firstIn? text = some place := by
  have within := within_of_firstIndex? occurs
  have positive := needle.length_lowered_pos
  -- Every character of the lower-cased text has a source.
  have sourced (position : Nat) (inText : position < (Text.lowerChars text).length) :
      ∃ source, (sources 0 text)[position]? = some source := by
    rw [← length_sources 0 text] at inText
    exact ⟨_, List.getElem?_eq_getElem inText⟩
  obtain ⟨first, isFirst⟩ := sourced index (by omega)
  obtain ⟨last, isLast⟩ := sourced (index + (needle.lowered.length - 1)) (by omega)
  exact ⟨(first, last + 1), by simp [firstIn?, occurs, isFirst, isLast]⟩

/-! ### Places by bytes -/

/-- A byte comes from the character behind the beginning of the text whose lower-case
form ends before it. -/
theorem getElem?_spans_of_between {start index position : Nat} {text : List Char}
    (lower : Text.byteLength (Text.lowerChars (text.take position)) ≤ index)
    (upper : index < Text.byteLength (Text.lowerChars (text.take (position + 1)))) :
    (spans start text)[index]? =
      some (start + Text.byteLength (text.take position),
        start + Text.byteLength (text.take (position + 1))) := by
  induction text generalizing start index position with
  | nil => exact absurd upper (Nat.not_lt_zero index)
  | cons character rest ih =>
      rw [spans, List.getElem?_append, List.length_replicate]
      cases position with
      | zero =>
          have within : index < Text.byteLength (Text.lowerChar character) := by
            simpa using upper
          rw [if_pos within, List.getElem?_replicate, if_pos within]
          simp
      | succ position =>
          simp at lower upper
          rw [if_neg (by omega), @ih _ _ position (by omega) (by omega)]
          simp [Nat.add_assoc]

theorem lowerChars_take_eq (text : List Char) (count : Nat) :
    Text.lowerChars (text.take count) =
      (Text.lowerChars text).take (Text.lowerChars (text.take count)).length := by
  have whole := congrArg Text.lowerChars (List.take_append_drop count text)
  rw [Text.lowerChars_append] at whole
  exact List.prefix_iff_eq_take.mp ⟨_, whole⟩

/-- Every byte of a character of the lower-cased text comes from the source of the
character. -/
theorem getElem?_spans_of_source {start index position byte : Nat} {text : List Char}
    (begins : (Text.lowerChars (text.take position)).length ≤ index)
    (ends : index < (Text.lowerChars (text.take (position + 1))).length)
    (lower : Text.byteLength ((Text.lowerChars text).take index) ≤ byte)
    (upper : byte < Text.byteLength ((Text.lowerChars text).take (index + 1))) :
    (spans start text)[byte]? =
      some (start + Text.byteLength (text.take position),
        start + Text.byteLength (text.take (position + 1))) := by
  have short (count : Nat) :
      (Text.lowerChars (text.take count)).length ≤ (Text.lowerChars text).length := by
    have shorter := length_lowerChars_take_le text (Nat.le_max_left count text.length)
    rwa [List.take_of_length_le (Nat.le_max_right count text.length)] at shorter
  apply getElem?_spans_of_between
  · rw [lowerChars_take_eq]
    exact Nat.le_trans ((Text.byteLength_take_le_iff (short position)).mpr begins) lower
  · rw [lowerChars_take_eq]
    have within := Nat.le_trans ends (short (position + 1))
    exact Nat.lt_of_lt_of_le upper ((Text.byteLength_take_le_iff within).mpr ends)

/-- The bytes before the end of the first occurrence are those before it and its own. -/
theorem byteLength_take_of_firstIndex? {needle : Needle} {text : List Char} {index : Nat}
    (occurs : firstIndex? needle.lowered (Text.lowerChars text) = some index) :
    Text.byteLength ((Text.lowerChars text).take (index + needle.lowered.length)) =
      Text.byteLength ((Text.lowerChars text).take index) + Text.byteLength needle.lowered := by
  obtain ⟨_, begins, _⟩ := firstIndex?_eq_some_iff.mp occurs
  rw [List.take_add, ← List.prefix_iff_eq_take.mp begins, Text.byteLength_append]

section Found

variable {needle : Needle} {text : List Char} {index first stop : Nat}
variable (occurs : firstIndex? needle.lowered (Text.lowerChars text) = some index)
variable (found : needle.firstIn? text = some (first, stop))
include occurs found

/-- The first byte of the first occurrence comes from the first character of the place. -/
theorem getElem?_spans_first (start : Nat) :
    (spans start text)[Text.byteLength ((Text.lowerChars text).take index)]? =
      some (start + Text.byteLength (text.take first),
        start + Text.byteLength (text.take (first + 1))) := by
  obtain ⟨_, _, same, _, begins, ends, _⟩ := firstIn?_eq_some_iff.mp found
  cases occurs.symm.trans same
  have positive := needle.length_lowered_pos
  have within : index + 1 ≤ (Text.lowerChars text).length := by
    have := within_of_firstIndex? occurs
    omega
  apply getElem?_spans_of_source begins ends (Nat.le_refl _)
  exact (Text.byteLength_take_lt_iff within).mpr (Nat.lt_succ_self index)

/-- The last byte of the first occurrence comes from the last character of the place. -/
theorem getElem?_spans_last (start : Nat) :
    ∃ last, (spans start text)[Text.byteLength ((Text.lowerChars text).take index) +
        Text.byteLength needle.lowered - 1]? =
      some (last, start + Text.byteLength (text.take stop)) := by
  obtain ⟨_, last, same, rfl, _, _, begins, ends⟩ := firstIn?_eq_some_iff.mp found
  cases occurs.symm.trans same
  have positive := needle.length_lowered_pos
  have behind : index + (needle.lowered.length - 1) + 1 = index + needle.lowered.length := by omega
  have longer := (Text.byteLength_take_lt_iff (within_of_firstIndex? occurs)).mpr
    (Nat.lt_of_succ_le (Nat.le_of_eq behind))
  rw [← byteLength_take_of_firstIndex? occurs]
  refine ⟨_, getElem?_spans_of_source begins ends (Nat.le_sub_one_of_lt longer) ?_⟩
  rw [behind]
  exact Nat.sub_one_lt_of_lt longer

end Found

/-- From the boundary of a character on, the bytes of the needle are found where the
needle is found in the rest of the text, and every place has its characters. -/
theorem findFrom?_of_dropBytes? (needle : Needle) {text rest : List Char} {offset : Nat}
    (boundary : Text.dropBytes? text offset = some rest) :
    needle.findFrom? text offset =
      some ((needle.firstIn? rest).map fun place =>
        (offset + Text.byteLength (rest.take place.1),
          offset + Text.byteLength (rest.take place.2))) := by
  simp only [findFrom?, boundary, Option.bind_eq_bind, Option.bind_some,
    firstIndex?_encode needle.ne_nil]
  cases occurs : firstIndex? needle.lowered (Text.lowerChars rest) with
  | none => simp [firstIn?, occurs]
  | some index =>
      obtain ⟨⟨first, stop⟩, found⟩ := exists_firstIn?_eq_some occurs
      obtain ⟨last, isLast⟩ := getElem?_spans_last occurs found offset
      simp [found, getElem?_spans_first occurs found offset, isLast]

/-- Behind the boundary of a character, the needle is found where it is in the rest. -/
theorem findFrom?_append (needle : Needle) (front rest : List Char) :
    needle.findFrom? (front ++ rest) (Text.byteLength front) =
      some ((needle.firstIn? rest).map fun place =>
        (Text.byteLength front + Text.byteLength (rest.take place.1),
          Text.byteLength front + Text.byteLength (rest.take place.2))) :=
  needle.findFrom?_of_dropBytes? (Text.dropBytes?_append front rest)

/-- A place that is found from an offset on begins at the offset or behind it, is
not empty and lies within the text. -/
theorem bounds_of_findFrom? {needle : Needle} {text : List Char} {offset start stop : Nat}
    (found : needle.findFrom? text offset = some (some (start, stop))) :
    offset ≤ start ∧ start < stop ∧ stop ≤ Text.byteLength text := by
  cases boundary : Text.dropBytes? text offset with
  | none =>
      rw [findFrom?, boundary] at found
      cases found
  | some rest =>
      rw [needle.findFrom?_of_dropBytes? boundary] at found
      simp only [Option.some.injEq, Option.map_eq_some_iff, Prod.mk.injEq] at found
      obtain ⟨⟨first, last⟩, place, rfl, rfl⟩ := found
      obtain ⟨front, rfl, rfl⟩ := Text.dropBytes?_eq_some_iff.mp boundary
      have ordered := Nat.le_of_lt (bounds_of_firstIn? place).1
      have wide := Text.byteLength_pos.mpr (found_ne_nil place)
      have inner := congrArg Text.byteLength (take_eq_append_drop rest ordered)
      have whole := congrArg Text.byteLength (List.take_append_drop last rest)
      simp only [Text.byteLength_append] at inner whole ⊢
      omega

end Needle

/-- Whether a text contains another regardless of case; every text contains the
empty one. -/
def containsIgnoringCase (text pattern : List Char) : Bool :=
  match Needle.of? pattern with
  | none => true
  | some needle => needle.isIn text

end TaskBoard
