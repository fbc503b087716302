import TaskBoard.Text.Boundary

/-!
# The first occurrence of a pattern

A pattern is searched from left to right, among characters or among bytes.  The bytes
of a text are found among those of another where the text is found in it.
-/

namespace TaskBoard

namespace Needle

variable {α : Type} [BEq α]

/-- The number of elements before the first occurrence of a pattern in a list. -/
def firstIndex? (pattern : List α) : List α → Option Nat
  | [] => if pattern.isEmpty then some 0 else none
  | head :: rest =>
      if pattern.isPrefixOf (head :: rest) then some 0
      else (firstIndex? pattern rest).map (· + 1)

variable [LawfulBEq α] {pattern : List α}

/-- The first occurrence of a pattern is the least position at which the list goes
on with the pattern. -/
theorem firstIndex?_eq_some_iff {list : List α} {index : Nat} :
    firstIndex? pattern list = some index ↔
      index ≤ list.length ∧ pattern <+: list.drop index ∧
        ∀ earlier < index, ¬ pattern <+: list.drop earlier := by
  induction list generalizing index with
  | nil =>
      rw [firstIndex?]
      cases pattern <;> cases index <;> simp
  | cons head rest ih =>
      rw [firstIndex?]
      split
      · next here =>
        rw [List.isPrefixOf_iff_prefix] at here
        rw [Option.some.injEq]
        constructor
        · rintro rfl
          exact ⟨Nat.zero_le _, here, fun _ impossible => absurd impossible (Nat.not_lt_zero _)⟩
        · rintro ⟨_, _, least⟩
          exact (Nat.eq_zero_of_not_pos fun positive => least 0 positive here).symm
      · next notHere =>
        rw [List.isPrefixOf_iff_prefix] at notHere
        rw [Option.map_eq_some_iff]
        constructor
        · rintro ⟨index, found, rfl⟩
          obtain ⟨within, occurs, least⟩ := ih.mp found
          refine ⟨Nat.succ_le_succ within, occurs, ?_⟩
          rintro (_ | earlier) before
          · exact notHere
          · exact least earlier (Nat.lt_of_succ_lt_succ before)
        · rintro ⟨within, occurs, least⟩
          cases index with
          | zero => exact absurd occurs notHere
          | succ index =>
              refine ⟨index, ih.mpr ⟨Nat.le_of_succ_le_succ within, occurs, ?_⟩, rfl⟩
              exact fun earlier before => least (earlier + 1) (Nat.succ_lt_succ before)

/-- A pattern that the list begins with is found at once. -/
theorem firstIndex?_of_isPrefix {list : List α} (begins : pattern <+: list) :
    firstIndex? pattern list = some 0 :=
  firstIndex?_eq_some_iff.mpr
    ⟨Nat.zero_le _, begins, fun _ impossible => absurd impossible (Nat.not_lt_zero _)⟩

/-- Elements at which the pattern does not begin are passed over. -/
theorem firstIndex?_append {front rest : List α}
    (absent : ∀ index < front.length, ¬ pattern <+: (front ++ rest).drop index) :
    firstIndex? pattern (front ++ rest) =
      (firstIndex? pattern rest).map (· + front.length) := by
  induction front with
  | nil => simp
  | cons head front ih =>
      have notHere : ¬ pattern.isPrefixOf (head :: (front ++ rest)) = true := by
        rw [List.isPrefixOf_iff_prefix]
        exact absent 0 (Nat.zero_lt_succ _)
      have notBehind : ∀ index < front.length, ¬ pattern <+: (front ++ rest).drop index :=
        fun index within => absent (index + 1) (Nat.succ_lt_succ within)
      rw [List.cons_append, firstIndex?, if_neg notHere, ih notBehind, Option.map_map]
      rfl

/-- A text is found among the bytes of another where it is found in it. -/
theorem firstIndex?_encode {pattern : List Char} (nonempty : pattern ≠ []) (text : List Char) :
    firstIndex? (Text.encode pattern) (Text.encode text) =
      (firstIndex? pattern text).map fun index => Text.byteLength (text.take index) := by
  induction text with
  | nil =>
      obtain ⟨first, pattern, rfl⟩ := List.exists_cons_of_ne_nil nonempty
      obtain ⟨lead, tail, bytes, _⟩ := Text.exists_encodeChar_eq_cons first
      rw [Text.encode_cons, bytes]
      rfl
  | cons character text ih =>
      by_cases here : pattern <+: character :: text
      · rw [firstIndex?_of_isPrefix here,
          firstIndex?_of_isPrefix (Text.encode_isPrefix_iff.mpr here)]
        rfl
      · have absent : ∀ index < (Text.encodeChar character).length, ¬ Text.encode pattern <+:
            (Text.encodeChar character ++ Text.encode text).drop index := by
          intro index within
          rcases Nat.eq_zero_or_pos index with rfl | inside
          · rw [List.drop_zero, ← Text.encode_cons, Text.encode_isPrefix_iff]
            exact here
          · exact Text.not_encode_isPrefix_drop nonempty character _ inside within
        have passed : firstIndex? pattern (character :: text) =
            (firstIndex? pattern text).map (· + 1) :=
          if_neg (mt List.isPrefixOf_iff_prefix.mp here)
        rw [Text.encode_cons, firstIndex?_append absent, ih, passed, Option.map_map,
          Option.map_map, Text.length_encodeChar]
        congr 1
        funext index
        simp [Nat.add_comm]

end Needle

end TaskBoard
