import Mathlib.Tactic.SplitIfs
import TaskBoard.Text.Utf8

/-!
# Texts as bytes

Decoding inverts encoding: the encoding of a text is decoded to the text, and no
other bytes are decoded to it.  The encoding is the one by which texts are stored.
-/

namespace TaskBoard.Text

/-! ### Decoding what was encoded -/

theorem toNat_valid (character : Char) :
    character.toNat < 0xD800 ∨ 0xDFFF < character.toNat ∧ character.toNat < 0x110000 :=
  character.valid

theorem decodeTail_cons {index count done code low high byte : Nat} {bytes : List Nat}
    (inRange : low ≤ byte ∧ byte ≤ high) :
    decodeTail index (count + 1) done code low high (byte :: bytes) =
      decodeTail index count (done + 1) (code * 0x40 + (byte - 0x80)) 0x80 0xBF bytes :=
  if_pos inRange

/-- A byte behind the second one contributes six bits. -/
theorem decodeTail_cons_sixBits {index count done code bits : Nat} {bytes : List Nat}
    (sixBits : bits < 0x40) :
    decodeTail index (count + 1) done code 0x80 0xBF ((0x80 + bits) :: bytes) =
      decodeTail index count (done + 1) (code * 0x40 + bits) 0x80 0xBF bytes := by
  rw [decodeTail_cons (by omega), Nat.add_sub_cancel_left]

theorem decodeChar_eq_ok (count : Nat) {index first : Nat} {bytes rest : List Nat}
    {character : Char} (counted : continuationCount? first = some count)
    (tail : decodeTail index count 1 (leadBits first) (secondByteRange first).1
      (secondByteRange first).2 bytes = .ok (character.toNat, rest)) :
    decodeChar index first bytes = .ok (character, rest) := by
  rw [decodeChar, counted]
  dsimp only
  rw [tail]
  simp [Char.ofNat_toNat]

section Lengths

variable (index : Nat) {character : Char} (rest : List Nat)

theorem decodeChar_one (upper : character.toNat < 0x80) :
    decodeChar index character.toNat rest = .ok (character, rest) := by
  apply decodeChar_eq_ok 0
  · rw [continuationCount?, if_pos upper]
  · rw [leadBits, if_pos upper, decodeTail]

theorem decodeChar_two (lower : 0x80 ≤ character.toNat) (upper : character.toNat < 0x800) :
    decodeChar index (0xC0 + character.toNat / 0x40)
      ((0x80 + character.toNat % 0x40) :: rest) = .ok (character, rest) := by
  have range : secondByteRange (0xC0 + character.toNat / 0x40) = (0x80, 0xBF) := by
    unfold secondByteRange
    iterate 4 rw [if_neg (by omega)]
  have lead : leadBits (0xC0 + character.toNat / 0x40) = character.toNat / 0x40 := by
    rw [leadBits, if_neg (by omega), if_pos (by omega), Nat.add_sub_cancel_left]
  apply decodeChar_eq_ok 1
  · rw [continuationCount?, if_neg (by omega), if_pos (by omega)]
  · rw [range, lead, decodeTail_cons_sixBits (Nat.mod_lt _ (by decide)), decodeTail,
      Nat.div_add_mod']

theorem decodeChar_three (lower : 0x800 ≤ character.toNat) (upper : character.toNat < 0x10000) :
    decodeChar index (0xE0 + character.toNat / 0x1000)
      ((0x80 + character.toNat / 0x40 % 0x40) :: (0x80 + character.toNat % 0x40) :: rest) =
      .ok (character, rest) := by
  have valid := toNat_valid character
  have range : (secondByteRange (0xE0 + character.toNat / 0x1000)).1 ≤
        0x80 + character.toNat / 0x40 % 0x40 ∧
      0x80 + character.toNat / 0x40 % 0x40 ≤
        (secondByteRange (0xE0 + character.toNat / 0x1000)).2 := by
    unfold secondByteRange
    split_ifs <;> dsimp only <;> omega
  have lead : leadBits (0xE0 + character.toNat / 0x1000) = character.toNat / 0x1000 := by
    rw [leadBits, if_neg (by omega), if_neg (by omega), if_pos (by omega), Nat.add_sub_cancel_left]
  apply decodeChar_eq_ok 2
  · rw [continuationCount?, if_neg (by omega), if_neg (by omega), if_pos (by omega)]
  · rw [lead, decodeTail_cons range, decodeTail_cons_sixBits (Nat.mod_lt _ (by decide)), decodeTail]
    congr 2
    omega

theorem decodeChar_four (lower : 0x10000 ≤ character.toNat) :
    decodeChar index (0xF0 + character.toNat / 0x40000)
      ((0x80 + character.toNat / 0x1000 % 0x40) :: (0x80 + character.toNat / 0x40 % 0x40) ::
        (0x80 + character.toNat % 0x40) :: rest) = .ok (character, rest) := by
  have valid := toNat_valid character
  have range : (secondByteRange (0xF0 + character.toNat / 0x40000)).1 ≤
        0x80 + character.toNat / 0x1000 % 0x40 ∧
      0x80 + character.toNat / 0x1000 % 0x40 ≤
        (secondByteRange (0xF0 + character.toNat / 0x40000)).2 := by
    unfold secondByteRange
    split_ifs <;> dsimp only <;> omega
  have lead : leadBits (0xF0 + character.toNat / 0x40000) = character.toNat / 0x40000 := by
    rw [leadBits, if_neg (by omega), if_neg (by omega), if_neg (by omega), Nat.add_sub_cancel_left]
  apply decodeChar_eq_ok 3
  · rw [continuationCount?, if_neg (by omega), if_neg (by omega), if_neg (by omega),
      if_pos (by omega)]
  · rw [lead, decodeTail_cons range, decodeTail_cons_sixBits (Nat.mod_lt _ (by decide)),
      decodeTail_cons_sixBits (Nat.mod_lt _ (by decide)), decodeTail]
    congr 2
    omega

end Lengths

/-- The bytes of a character are decoded to it, whatever follows. -/
theorem decodeChar_encodeChar (index : Nat) (character : Char) (rest : List Nat) :
    ∃ first tail, encodeChar character = first :: tail ∧
      decodeChar index first (tail ++ rest) = .ok (character, rest) := by
  unfold encodeChar
  dsimp only
  split
  · next upper => exact ⟨_, _, rfl, decodeChar_one index rest upper⟩
  · next lower =>
    split
    · next upper => exact ⟨_, _, rfl, decodeChar_two index rest (Nat.le_of_not_lt lower) upper⟩
    · next lower =>
      split
      · next upper => exact ⟨_, _, rfl, decodeChar_three index rest (Nat.le_of_not_lt lower) upper⟩
      · next lower => exact ⟨_, _, rfl, decodeChar_four index rest (Nat.le_of_not_lt lower)⟩

theorem decodeFrom_encode (fuel index : Nat) (characters : List Char)
    (enough : (encode characters).length ≤ fuel) :
    decodeFrom fuel index (encode characters) = .ok characters := by
  induction characters generalizing fuel index with
  | nil => cases fuel <;> rfl
  | cons character characters ih =>
      obtain ⟨first, tail, bytes, decoded⟩ :=
        decodeChar_encodeChar index character (encode characters)
      rw [encode_cons, bytes, List.cons_append] at enough ⊢
      cases fuel with
      | zero => contradiction
      | succ fuel =>
          have remaining : (encode characters).length ≤ fuel := by
            rw [List.length_cons, List.length_append] at enough
            omega
          rw [decodeFrom, decoded]
          dsimp only
          rw [ih fuel _ remaining]

/-- Decoding inverts encoding. -/
@[simp] theorem decode_encode (characters : List Char) :
    decode (encode characters) = .ok characters :=
  decodeFrom_encode _ 0 characters (Nat.le_refl _)

theorem encodeChar_eq_map_toNat (character : Char) :
    encodeChar character = (String.utf8EncodeChar character).map UInt8.toNat := by
  have valid := toNat_valid character
  simp only [encodeChar, String.utf8EncodeChar, Char.toNat_val]
  -- The two definitions test the same bounds, and no quotient reaches the masks.
  split_ifs
  all_goals simp
  all_goals omega

/-- The encoding is the one by which texts are stored. -/
theorem encode_toList (text : String) :
    encode text.toList = text.toUTF8.data.toList.map UInt8.toNat := by
  rw [encode, funext encodeChar_eq_map_toNat, ← List.map_flatMap, String.toUTF8,
    ← String.utf8Encode_toList, List.utf8Encode, List.data_toByteArray]

/-! ### Encoding what was decoded -/

theorem toNat_ofNat {code : Nat} (valid : code < 0xD800 ∨ 0xDFFF < code ∧ code < 0x110000) :
    (Char.ofNat code).toNat = code := by
  rw [Char.ofNat, dif_pos valid]
  rfl

section Bytes

variable {first second third fourth : Nat}

/-- The range of a second byte leaves out overlong forms, surrogates and what lies beyond
the last plane. -/
theorem bounds_of_secondByteRange (low : (secondByteRange first).1 ≤ second)
    (high : second ≤ (secondByteRange first).2) :
    (0x80 ≤ second ∧ second ≤ 0xBF) ∧ (first = 0xE0 → 0xA0 ≤ second) ∧
      (first = 0xED → second ≤ 0x9F) ∧ (first = 0xF0 → 0x90 ≤ second) ∧
      (first = 0xF4 → second ≤ 0x8F) := by
  unfold secondByteRange at low high
  split_ifs at low high <;> dsimp only at low high <;> omega

theorem encodeChar_ofNat_one (firstHigh : first < 0x80) :
    encodeChar (Char.ofNat first) = [first] := by
  rw [encodeChar, toNat_ofNat (by omega), if_pos firstHigh]

theorem encodeChar_ofNat_two (firstLow : 0xC2 ≤ first) (firstHigh : first ≤ 0xDF)
    (secondBounds : 0x80 ≤ second ∧ second ≤ 0xBF) :
    encodeChar (Char.ofNat ((first - 0xC0) * 0x40 + (second - 0x80))) = [first, second] := by
  rw [encodeChar, toNat_ofNat (by omega), if_neg (by omega), if_pos (by omega)]
  simp only [List.cons.injEq, and_true]
  omega

theorem encodeChar_ofNat_three (firstLow : 0xE0 ≤ first) (firstHigh : first ≤ 0xEF)
    (secondBounds : 0x80 ≤ second ∧ second ≤ 0xBF) (proper : first = 0xE0 → 0xA0 ≤ second)
    (noSurrogate : first = 0xED → second ≤ 0x9F) (thirdBounds : 0x80 ≤ third ∧ third ≤ 0xBF) :
    encodeChar (Char.ofNat (((first - 0xE0) * 0x40 + (second - 0x80)) * 0x40 + (third - 0x80))) =
      [first, second, third] := by
  rw [encodeChar, toNat_ofNat (by omega), if_neg (by omega), if_neg (by omega), if_pos (by omega)]
  simp only [List.cons.injEq, and_true]
  omega

theorem encodeChar_ofNat_four (firstLow : 0xF0 ≤ first) (firstHigh : first ≤ 0xF4)
    (secondBounds : 0x80 ≤ second ∧ second ≤ 0xBF) (proper : first = 0xF0 → 0x90 ≤ second)
    (inPlanes : first = 0xF4 → second ≤ 0x8F) (thirdBounds : 0x80 ≤ third ∧ third ≤ 0xBF)
    (fourthBounds : 0x80 ≤ fourth ∧ fourth ≤ 0xBF) :
    encodeChar (Char.ofNat ((((first - 0xF0) * 0x40 + (second - 0x80)) * 0x40 +
      (third - 0x80)) * 0x40 + (fourth - 0x80))) = [first, second, third, fourth] := by
  rw [encodeChar, toNat_ofNat (by omega), if_neg (by omega), if_neg (by omega), if_neg (by omega)]
  simp only [List.cons.injEq, and_true]
  omega

end Bytes

/-- The bytes behind a first byte are read one at a time, each within its range. -/
theorem exists_cons_of_decodeTail {index count done code low high final : Nat}
    {bytes rest : List Nat}
    (read : decodeTail index (count + 1) done code low high bytes = .ok (final, rest)) :
    ∃ byte tail, bytes = byte :: tail ∧ (low ≤ byte ∧ byte ≤ high) ∧
      decodeTail index count (done + 1) (code * 0x40 + (byte - 0x80)) 0x80 0xBF tail =
        .ok (final, rest) := by
  cases bytes with
  | nil => cases read
  | cons byte tail =>
      rw [decodeTail] at read
      split at read
      · next inRange => exact ⟨byte, tail, rfl, inRange, read⟩
      · cases read

theorem eq_of_decodeTail_zero {index done code low high final : Nat} {bytes rest : List Nat}
    (read : decodeTail index 0 done code low high bytes = .ok (final, rest)) :
    final = code ∧ bytes = rest := by
  rw [decodeTail] at read
  cases read
  exact ⟨rfl, rfl⟩

theorem encodeChar_append_of_decodeTail {index first count code : Nat} {bytes rest : List Nat}
    (counted : continuationCount? first = some count)
    (read : decodeTail index count 1 (leadBits first) (secondByteRange first).1
      (secondByteRange first).2 bytes = .ok (code, rest)) :
    encodeChar (Char.ofNat code) ++ rest = first :: bytes := by
  unfold continuationCount? at counted
  split_ifs at counted with one two three four <;> cases counted
  · obtain ⟨isCode, same⟩ := eq_of_decodeTail_zero read
    rw [isCode, same, leadBits, if_pos one, encodeChar_ofNat_one one, List.singleton_append]
  · obtain ⟨second, bytes, rfl, inRange, read⟩ := exists_cons_of_decodeTail read
    obtain ⟨isCode, same⟩ := eq_of_decodeTail_zero read
    obtain ⟨secondBounds, _⟩ := bounds_of_secondByteRange inRange.1 inRange.2
    rw [isCode, same, leadBits, if_neg one, if_pos (by omega),
      encodeChar_ofNat_two two.1 two.2 secondBounds]
    rfl
  · obtain ⟨second, bytes, rfl, inRange, read⟩ := exists_cons_of_decodeTail read
    obtain ⟨third, bytes, rfl, thirdBounds, read⟩ := exists_cons_of_decodeTail read
    obtain ⟨isCode, same⟩ := eq_of_decodeTail_zero read
    obtain ⟨secondBounds, proper, noSurrogate, _⟩ :=
      bounds_of_secondByteRange inRange.1 inRange.2
    rw [isCode, same, leadBits, if_neg one, if_neg (by omega), if_pos (by omega),
      encodeChar_ofNat_three three.1 three.2 secondBounds proper noSurrogate thirdBounds]
    rfl
  · obtain ⟨second, bytes, rfl, inRange, read⟩ := exists_cons_of_decodeTail read
    obtain ⟨third, bytes, rfl, thirdBounds, read⟩ := exists_cons_of_decodeTail read
    obtain ⟨fourth, bytes, rfl, fourthBounds, read⟩ := exists_cons_of_decodeTail read
    obtain ⟨isCode, same⟩ := eq_of_decodeTail_zero read
    obtain ⟨secondBounds, _, _, proper, inPlanes⟩ :=
      bounds_of_secondByteRange inRange.1 inRange.2
    rw [isCode, same, leadBits, if_neg one, if_neg (by omega), if_neg (by omega),
      encodeChar_ofNat_four four.1 four.2 secondBounds proper inPlanes thirdBounds fourthBounds]
    rfl

/-- The bytes that are decoded to a character are those that encode it. -/
theorem encodeChar_append_of_decodeChar {index first : Nat} {bytes rest : List Nat}
    {character : Char} (decoded : decodeChar index first bytes = .ok (character, rest)) :
    encodeChar character ++ rest = first :: bytes := by
  rw [decodeChar] at decoded
  cases counted : continuationCount? first with
  | none =>
      rw [counted] at decoded
      cases decoded
  | some count =>
      rw [counted] at decoded
      dsimp only at decoded
      split at decoded
      · next code rest read =>
        cases decoded
        exact encodeChar_append_of_decodeTail counted read
      · cases decoded

theorem encode_of_decodeFrom {fuel index : Nat} {bytes : List Nat} {characters : List Char}
    (enough : bytes.length ≤ fuel) (decoded : decodeFrom fuel index bytes = .ok characters) :
    encode characters = bytes := by
  induction fuel generalizing index bytes characters with
  | zero =>
      cases List.eq_nil_of_length_eq_zero (Nat.le_zero.mp enough)
      cases decoded
      rfl
  | succ fuel ih =>
      cases bytes with
      | nil =>
          cases decoded
          rfl
      | cons first bytes =>
          rw [decodeFrom] at decoded
          split at decoded
          · cases decoded
          · next character rest decodedChar =>
            have whole := encodeChar_append_of_decodeChar decodedChar
            have shorter : rest.length ≤ bytes.length := by
              obtain ⟨lead, tail, isEncoded, _⟩ := decodeChar_encodeChar 0 character []
              rw [isEncoded, List.cons_append, List.cons.injEq] at whole
              rw [← whole.2, List.length_append]
              exact Nat.le_add_left _ _
            split at decoded
            · cases decoded
            · next others decodedRest =>
              cases decoded
              rw [List.length_cons] at enough
              rw [encode_cons, ih (by omega) decodedRest, whole]

/-- Just the encoding of a text is decoded, and as this text. -/
theorem decode_eq_ok_iff {bytes : List Nat} {characters : List Char} :
    decode bytes = .ok characters ↔ bytes = encode characters := by
  constructor
  · intro decoded
    exact (encode_of_decodeFrom (Nat.le_refl _) decoded).symm
  · rintro rfl
    exact decode_encode characters

end TaskBoard.Text
