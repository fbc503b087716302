import TaskBoard.Text.Utf8

/-!
# Characters among bytes

No byte that begins a character goes on with one, and the first byte of a character
tells how many follow.  So the bytes of a text stand among those of another only
where the text itself stands in it, and never inside a character.
-/

namespace TaskBoard.Text

/-- Whether a byte goes on with a character that an earlier byte begins. -/
def Continues (byte : Nat) : Prop := 0x80 ≤ byte ∧ byte < 0xC0

/-- Only the first byte of a character does not go on with it. -/
theorem exists_encodeChar_eq_cons (character : Char) :
    ∃ lead tail, encodeChar character = lead :: tail ∧ ¬ Continues lead ∧
      ∀ byte ∈ tail, Continues byte := by
  have valid := character.valid
  unfold encodeChar Continues
  dsimp only
  split
  · exact ⟨_, _, rfl, by omega, by simp⟩
  · split
    · exact ⟨_, _, rfl, by omega, by simp; omega⟩
    · split
      · exact ⟨_, _, rfl, by omega, by simp; omega⟩
      · exact ⟨_, _, rfl, by omega, by simp; omega⟩

theorem length_encodeChar (character : Char) :
    (encodeChar character).length = character.utf8Size := by
  have code : character.toNat = character.val.toNat := rfl
  simp only [encodeChar, Char.utf8Size, UInt32.le_iff_toNat_le, code, UInt32.toNat_ofNatLT]
  grind

/-- The bytes of a character begin those of no other one. -/
theorem encodeChar_append_inj {left right : Char} {bytes others : List Nat}
    (same : encodeChar left ++ bytes = encodeChar right ++ others) :
    left = right ∧ bytes = others := by
  -- The first byte tells which of four forms it is, and the bytes of a form tell the code.
  have code : left.toNat = right.toNat ∧ bytes = others := by
    unfold encodeChar at same
    grind
  exact ⟨Char.ext (UInt32.toNat_inj.mp code.1), code.2⟩

/-- The bytes of a text begin with those of another exactly if the text begins with it. -/
theorem encode_isPrefix_iff {pattern text : List Char} :
    encode pattern <+: encode text ↔ pattern <+: text := by
  constructor
  · intro begins
    induction pattern generalizing text with
    | nil => exact List.nil_prefix
    | cons first pattern ih =>
        obtain ⟨behind, same⟩ := begins
        cases text with
        | nil =>
            obtain ⟨lead, tail, bytes, _⟩ := exists_encodeChar_eq_cons first
            rw [encode_cons, bytes] at same
            cases same
        | cons character text =>
            rw [encode_cons, encode_cons, List.append_assoc] at same
            obtain ⟨rfl, rest⟩ := encodeChar_append_inj same
            exact List.cons_prefix_cons.mpr ⟨rfl, ih ⟨behind, rest⟩⟩
  · rintro ⟨behind, rfl⟩
    exact ⟨encode behind, List.flatMap_append.symm⟩

/-- No text begins inside the bytes of a character. -/
theorem not_encode_isPrefix_drop {pattern : List Char} (nonempty : pattern ≠ [])
    (character : Char) (bytes : List Nat) {index : Nat} (inside : 0 < index)
    (within : index < (encodeChar character).length) :
    ¬ encode pattern <+: (encodeChar character ++ bytes).drop index := by
  intro begins
  obtain ⟨first, pattern, rfl⟩ := List.exists_cons_of_ne_nil nonempty
  obtain ⟨lead, _, isFirst, starts, _⟩ := exists_encodeChar_eq_cons first
  obtain ⟨_, tail, isCharacter, _, continues⟩ := exists_encodeChar_eq_cons character
  obtain ⟨index, rfl⟩ := Nat.exists_eq_succ_of_ne_zero (Nat.ne_of_gt inside)
  rw [isCharacter] at within begins
  have short : index < tail.length := Nat.lt_of_succ_lt_succ within
  rw [encode_cons, isFirst, List.cons_append, List.cons_append, List.drop_succ_cons,
    List.drop_append_of_le_length (Nat.le_of_lt short), List.drop_eq_getElem_cons short,
    List.cons_append, List.cons_prefix_cons] at begins
  rw [begins.1] at starts
  exact starts (continues _ (List.getElem_mem short))

/-- A longer beginning of a text has more bytes. -/
theorem byteLength_take_le_iff {text : List Char} {count more : Nat}
    (within : count ≤ text.length) :
    byteLength (text.take count) ≤ byteLength (text.take more) ↔ count ≤ more := by
  induction text generalizing count more with
  | nil =>
      obtain rfl := Nat.le_zero.mp within
      simp
  | cons character rest ih =>
      have size := character.utf8Size_pos
      cases count with
      | zero => simp
      | succ count =>
          cases more with
          | zero =>
              simp
              omega
          | succ more =>
              have inRest := @ih count more (Nat.le_of_succ_le_succ within)
              simp [inRest]

theorem byteLength_take_lt_iff {text : List Char} {count more : Nat} (within : more ≤ text.length) :
    byteLength (text.take count) < byteLength (text.take more) ↔ count < more := by
  rw [← Nat.not_le, byteLength_take_le_iff within, Nat.not_le]

end TaskBoard.Text
