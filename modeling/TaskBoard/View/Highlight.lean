import TaskBoard.Search.Needle

/-!
# Highlighting

A text is cut into segments that contain a keyword regardless of case and
segments between them.  The segments together are the text.

They are cut out by byte offsets, which is impossible at an offset that is not
the boundary of a character; `cut?_eq_some` says that this never happens and which
segments there are.
-/

namespace TaskBoard

/-- A piece of a text, and whether it is one where the keyword was found. -/
structure Segment where
  text : List Char
  isMatch : Bool
  deriving DecidableEq, Repr

namespace Segment

/-- The text as a segment without match; no segment for the empty text. -/
def plain (text : List Char) : List Segment := if text.isEmpty then [] else [⟨text, false⟩]

/-- The text between two byte offsets as a segment without match; no segment where
the first offset is not less than the second. -/
def between? (text : List Char) (start stop : Nat) : Option (List Segment) :=
  if start < stop then (Text.sliceBytes? text start stop).map fun piece => [⟨piece, false⟩]
  else some []

/-- The segments of a text from a byte offset on, from left to right, if they can be
cut out. -/
def cutFrom? (needle : Needle) (text : List Char) (cursor : Nat) : Option (List Segment) :=
  match _ : needle.findFrom? text cursor with
  | none => none
  | some none => between? text cursor (Text.byteLength text)
  | some (some (start, stop)) => do
      let before ← between? text cursor start
      let found ← Text.sliceBytes? text start stop
      let behind ← cutFrom? needle text stop
      return before ++ ⟨found, true⟩ :: behind
termination_by Text.byteLength text - cursor
decreasing_by
  have := Needle.bounds_of_findFrom? ‹_›
  omega

/-- The segments of a text for a keyword, if they can be cut out; the empty keyword
is found nowhere. -/
def cut? (text keyword : List Char) : Option (List Segment) :=
  match Needle.of? keyword with
  | none => some (plain text)
  | some needle => cutFrom? needle text 0

/-- The segments of a text that a needle is searched in, from left to right. -/
def split (needle : Needle) (text : List Char) : List Segment :=
  match _ : needle.firstIn? text with
  | none => plain text
  | some (first, stop) =>
      plain (text.take first) ++ ⟨(text.take stop).drop first, true⟩ :: split needle (text.drop stop)
termination_by text.length
decreasing_by
  have := Needle.bounds_of_firstIn? ‹_›
  rw [List.length_drop]
  omega

theorem between?_append (front piece rest : List Char) :
    between? (front ++ (piece ++ rest)) (Text.byteLength front)
      (Text.byteLength front + Text.byteLength piece) = some (plain piece) := by
  rw [between?, Text.sliceBytes?_append, plain]
  cases piece with
  | nil => simp
  | cons character piece =>
      have := character.utf8Size_pos
      simp
      omega

theorem cutFrom?_of_absent {needle : Needle} {text : List Char} {cursor : Nat}
    (absent : needle.findFrom? text cursor = some none) :
    cutFrom? needle text cursor = between? text cursor (Text.byteLength text) := by
  rw [cutFrom?]
  split
  · next failed => cases absent.symm.trans failed
  · rfl
  · next found => cases absent.symm.trans found

theorem cutFrom?_of_found {needle : Needle} {text : List Char} {cursor start stop : Nat}
    (found : needle.findFrom? text cursor = some (some (start, stop))) :
    cutFrom? needle text cursor = do
      let before ← between? text cursor start
      let found ← Text.sliceBytes? text start stop
      let behind ← cutFrom? needle text stop
      return before ++ ⟨found, true⟩ :: behind := by
  rw [cutFrom?]
  split
  · next failed => cases found.symm.trans failed
  · next absent => cases found.symm.trans absent
  · next same => cases found.symm.trans same; rfl

theorem split_of_absent {needle : Needle} {text : List Char}
    (absent : needle.firstIn? text = none) : split needle text = plain text := by
  rw [split]
  split
  · rfl
  · next found => cases absent.symm.trans found

theorem split_of_found {needle : Needle} {text : List Char} {first stop : Nat}
    (found : needle.firstIn? text = some (first, stop)) :
    split needle text = plain (text.take first) ++
      ⟨(text.take stop).drop first, true⟩ :: split needle (text.drop stop) := by
  rw [split]
  split
  · next absent => cases found.symm.trans absent
  · next same => cases found.symm.trans same; rfl

/-- All segments behind the boundary of a character can be cut out. -/
theorem cutFrom?_append (needle : Needle) (front rest : List Char) :
    cutFrom? needle (front ++ rest) (Text.byteLength front) = some (split needle rest) := by
  induction rest using split.induct needle generalizing front with
  | case1 rest absent =>
      have notFound := needle.findFrom?_append front rest
      rw [absent, Option.map_none] at notFound
      have piece := between?_append front rest []
      rw [List.append_nil] at piece
      rw [cutFrom?_of_absent notFound, split_of_absent absent, Text.byteLength_append, piece]
  | case2 rest first stop found ih =>
      have place := needle.findFrom?_append front rest
      rw [found, Option.map_some] at place
      have ordered := Nat.le_of_lt (Needle.bounds_of_firstIn? found).1
      have pieces := Needle.pieces_at rest ordered
      have width : Text.byteLength (rest.take stop) =
          Text.byteLength (rest.take first) + Text.byteLength ((rest.take stop).drop first) := by
        rw [← Text.byteLength_append, ← Needle.take_eq_append_drop rest ordered]
      have before := between?_append front (rest.take first)
        ((rest.take stop).drop first ++ rest.drop stop)
      have piece := Text.sliceBytes?_append (front ++ rest.take first) ((rest.take stop).drop first)
        (rest.drop stop)
      have behind := ih (front ++ rest.take stop)
      simp only [List.append_assoc, pieces, List.take_append_drop, Text.byteLength_append]
        at before piece behind
      rw [Nat.add_assoc, ← width] at piece
      rw [cutFrom?_of_found place, split_of_found found]
      simp [before, piece, behind]

/-- All segments can be cut out, whatever the text and the keyword are. -/
theorem cut?_isSome (text keyword : List Char) : (cut? text keyword).isSome = true := by
  rw [cut?]
  cases Needle.of? keyword with
  | none => rfl
  | some needle => exact Option.isSome_of_eq_some (cutFrom?_append needle [] text)

/-- The texts of the segments, one after the other. -/
def joined (segments : List Segment) : List Char := segments.flatMap text

/-- The texts of the segments, those with a match between marks. -/
def marked (opening closing : String) (segments : List Segment) : String :=
  String.join (segments.map fun segment =>
    if segment.isMatch then opening ++ String.ofList segment.text ++ closing
    else String.ofList segment.text)

end Segment

/-- The segments of a text for a keyword. -/
def highlight (text keyword : List Char) : List Segment :=
  (Segment.cut? text keyword).get (Segment.cut?_isSome text keyword)

namespace Segment

theorem cut?_eq_some (text keyword : List Char) :
    cut? text keyword = some (highlight text keyword) :=
  (Option.some_get _).symm

end Segment

end TaskBoard
