import Mathlib.Tactic.SplitIfs
import TaskBoard.Text.Boundary

/-!
# The order of bytes

The forms of characters are laid out so that a character with a greater code has greater
bytes, whatever follows.  So texts are ordered by their bytes as they are by their
characters (`encode_lt_iff`).
-/

namespace TaskBoard.Text

/-- The lesser of two characters has the lesser bytes, whatever follows them. -/
theorem encodeChar_append_lt {left right : Char} (less : left < right)
    (bytes others : List Nat) : encodeChar left ++ bytes < encodeChar right ++ others := by
  have code : left.toNat < right.toNat := UInt32.lt_iff_toNat_lt.mp less
  -- A longer form has a greater first byte; in one form the first byte that differs decides.
  unfold encodeChar
  dsimp only
  split_ifs
  all_goals
    simp only [List.cons_append, List.nil_append, List.cons_lt_cons_iff]
    omega

theorem append_lt_append_iff (front left right : List Nat) :
    front ++ left < front ++ right ↔ left < right := by
  induction front with
  | nil => rfl
  | cons byte front ih => simp [ih]

/-- The order of texts by their bytes is their order by characters. -/
theorem encode_lt_iff {left right : List Char} : encode left < encode right ↔ left < right := by
  induction left generalizing right with
  | nil =>
      cases right with
      | nil => simp
      | cons character rest =>
          obtain ⟨lead, tail, bytes, _⟩ := exists_encodeChar_eq_cons character
          rw [encode_cons, bytes]
          simp [encode]
  | cons first left ih =>
      cases right with
      | nil => simp [encode]
      | cons character right =>
          rw [encode_cons, encode_cons, List.cons_lt_cons_iff]
          rcases Std.lt_trichotomy first character with less | rfl | greater
          · simp [less, encodeChar_append_lt less]
          · rw [append_lt_append_iff, ih]
            simp
          · have behind := encodeChar_append_lt greater (encode right) (encode left)
            have different : first ≠ character := (Std.ne_of_lt greater).symm
            simp [List.lt_asymm behind, Char.lt_asymm greater, different]

end TaskBoard.Text
