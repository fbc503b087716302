import Mathlib.Data.List.Chain
import TaskBoard.Proofs.Search.Occurrence
import TaskBoard.View.Highlight

/-!
# Highlighted texts

The segments of a text are those that contain the keyword and those between
them, and nothing of the text is lost.  `highlight_segments` says so of every
text and keyword, together with the fact that the segments can be cut out.
-/

namespace TaskBoard

namespace Segment

variable {needle : Needle} {text : List Char}

theorem joined_append (left right : List Segment) :
    joined (left ++ right) = joined left ++ joined right :=
  List.flatMap_append

theorem joined_cons (segment : Segment) (segments : List Segment) :
    joined (segment :: segments) = segment.text ++ joined segments :=
  List.flatMap_cons

@[simp] theorem joined_plain (text : List Char) : joined (plain text) = text := by
  cases text <;> simp [plain, joined]

theorem mem_plain {segment : Segment} {text : List Char} :
    segment ∈ plain text ↔ text ≠ [] ∧ segment = ⟨text, false⟩ := by
  cases text <;> simp [plain]

/-- The segments together are the text. -/
theorem joined_split (needle : Needle) (text : List Char) : joined (split needle text) = text := by
  induction text using split.induct needle with
  | case1 text absent => rw [split_of_absent absent, joined_plain]
  | case2 text first stop found ih =>
      have ordered := Nat.le_of_lt (Needle.bounds_of_firstIn? found).1
      rw [split_of_found found, joined_append, joined_plain, joined_cons, ih]
      exact Needle.pieces_at text ordered

/-- No segment is empty. -/
theorem ne_nil_of_mem_split {segment : Segment} (member : segment ∈ split needle text) :
    segment.text ≠ [] := by
  induction text using split.induct needle with
  | case1 text absent =>
      rw [split_of_absent absent, mem_plain] at member
      rw [member.2]
      exact member.1
  | case2 text first stop found ih =>
      rw [split_of_found found, List.mem_append, List.mem_cons, mem_plain] at member
      rcases member with ⟨nonempty, rfl⟩ | rfl | behind
      · exact nonempty
      · exact Needle.found_ne_nil found
      · exact ih behind

/-- The segments with a match are those that contain the needle. -/
theorem isMatch_of_mem_split {segment : Segment} (member : segment ∈ split needle text) :
    segment.isMatch = needle.isIn segment.text := by
  induction text using split.induct needle with
  | case1 text absent =>
      rw [split_of_absent absent, mem_plain] at member
      rw [member.2]
      exact (Needle.firstIn?_eq_none_iff.mp absent).symm
  | case2 text first stop found ih =>
      rw [split_of_found found, List.mem_append, List.mem_cons, mem_plain] at member
      rcases member with ⟨_, rfl⟩ | rfl | behind
      · exact (Needle.isIn_take_of_firstIn? found).symm
      · exact (Needle.isIn_found_of_firstIn? found).symm
      · exact ih behind

/-- There is a match if the text contains the needle. -/
theorem exists_isMatch_split_iff :
    (∃ segment ∈ split needle text, segment.isMatch = true) ↔ needle.isIn text = true := by
  cases found : needle.firstIn? text with
  | none =>
      rw [split_of_absent found, Needle.firstIn?_eq_none_iff.mp found]
      simp [mem_plain]
  | some place =>
      rw [split_of_found found, ← Needle.firstIn?_isSome, found]
      refine iff_of_true ⟨_, List.mem_append_right _ List.mem_cons_self, rfl⟩ rfl

/-- A piece without match stands between matches. -/
theorem isChain_split (needle : Needle) (text : List Char) :
    (split needle text).IsChain fun left right => left.isMatch = true ∨ right.isMatch = true := by
  induction text using split.induct needle with
  | case1 text absent =>
      rw [split_of_absent absent, plain]
      split <;> simp
  | case2 text first stop found ih =>
      rw [split_of_found found, plain]
      split <;> simp [ih, List.isChain_cons]

end Segment

/-- A keyword that is not empty is searched as a needle, which decides what the text
and its segments contain. -/
theorem exists_needle_of_ne_nil {keyword : List Char} (nonempty : keyword ≠ []) :
    ∃ needle : Needle, (∀ text, highlight text keyword = Segment.split needle text) ∧
      ∀ text, containsIgnoringCase text keyword = needle.isIn text := by
  obtain ⟨needle, isNeedle⟩ := Needle.exists_of?_eq_some nonempty
  refine ⟨needle, ?_, Needle.containsIgnoringCase_eq_isIn isNeedle⟩
  intro text
  have cut := Segment.cut?_eq_some text keyword
  rw [Segment.cut?, isNeedle] at cut
  exact Option.some.inj (cut.symm.trans (Segment.cutFrom?_append needle [] text))

theorem highlight_nil (text : List Char) : highlight text [] = Segment.plain text :=
  (Option.some.inj (Segment.cut?_eq_some text [])).symm

/-- Highlighting cuts every text at boundaries of characters, each turn behind the
last one and within the text, into segments that are not empty and together are
the text.  For a keyword that is not empty, there is a match if the filter finds
the keyword in the text, the matches are the segments in which the filter finds
it, and every other segment stands between matches. -/
theorem highlight_segments (text keyword : List Char) :
    Segment.cut? text keyword = some (highlight text keyword) ∧
    (∀ needle, Needle.of? keyword = some needle → ∀ cursor start stop,
      needle.findFrom? text cursor = some (some (start, stop)) →
        cursor ≤ start ∧ start < stop ∧ stop ≤ Text.byteLength text) ∧
    (∀ segment ∈ highlight text keyword, segment.text ≠ []) ∧
    Segment.joined (highlight text keyword) = text ∧
    (keyword ≠ [] →
      ((∃ segment ∈ highlight text keyword, segment.isMatch = true) ↔
        containsIgnoringCase text keyword = true) ∧
      (∀ segment ∈ highlight text keyword,
        segment.isMatch = containsIgnoringCase segment.text keyword) ∧
      (highlight text keyword).IsChain fun left right =>
        left.isMatch = true ∨ right.isMatch = true) := by
  refine ⟨Segment.cut?_eq_some text keyword, fun _ _ _ _ _ => Needle.bounds_of_findFrom?, ?_⟩
  by_cases empty : keyword = []
  · subst empty
    rw [highlight_nil]
    refine ⟨?_, Segment.joined_plain text, fun nonempty => absurd rfl nonempty⟩
    intro segment member
    obtain ⟨nonempty, rfl⟩ := Segment.mem_plain.mp member
    exact nonempty
  · obtain ⟨needle, highlighted, contains⟩ := exists_needle_of_ne_nil empty
    rw [highlighted]
    refine ⟨fun _ => Segment.ne_nil_of_mem_split, Segment.joined_split needle text, fun _ => ?_⟩
    simp only [contains]
    exact ⟨Segment.exists_isMatch_split_iff, fun _ => Segment.isMatch_of_mem_split,
      Segment.isChain_split needle text⟩

/-- The dotted capital I is highlighted as a whole where its lower-case form only
begins with the keyword. -/
theorem highlight_segments_dotted_i :
    ['i'] ≠ [] ∧ containsIgnoringCase ['B', 'İ', 'S'] ['i'] = true ∧
      ∃ segment ∈ highlight ['B', 'İ', 'S'] ['i'],
        segment.isMatch = true ∧ containsIgnoringCase segment.text ['i'] = true := by
  have nonempty : ['i'] ≠ [] := by decide
  have contained : containsIgnoringCase ['B', 'İ', 'S'] ['i'] = true := by decide
  obtain ⟨found, matching, _⟩ := (highlight_segments ['B', 'İ', 'S'] ['i']).2.2.2.2 nonempty
  obtain ⟨segment, member, isMatch⟩ := found.mpr contained
  have containing := (matching segment member).symm.trans isMatch
  exact ⟨nonempty, contained, segment, member, isMatch, containing⟩

end TaskBoard
