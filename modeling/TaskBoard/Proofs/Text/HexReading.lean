import TaskBoard.Proofs.Text.Encoding
import TaskBoard.Proofs.Text.Numerals
import TaskBoard.Text.Hex

/-!
# Texts as hexadecimal bytes

`SpellsBytes` says which digits spell bytes, two of either case for each, and
`PairsBytes` which characters are read as bytes: pairs of digits, but also a plus
sign with one digit, since each pair is read as a numeral.  The characters that
are read as a text are those that are read as the bytes of its encoding.
-/

namespace TaskBoard.Text

/-! ### One byte -/

/-- Two characters are read as a byte: as its two digits, or as a plus sign and the only
digit of a byte below sixteen. -/
inductive IsBytePair (first second : Char) (byte : Nat) : Prop where
  | digits : IsDigit (byte / 16) first → IsDigit (byte % 16) second → IsBytePair first second byte
  | plus : first = '+' → IsDigit byte second → IsBytePair first second byte

theorem utf8Size_of_isDigit {value : Nat} {character : Char} (isDigit : IsDigit value character) :
    character.utf8Size = 1 := by
  have lower : ∀ value < 16, value.digitChar.utf8Size = 1 := by decide
  have upper : ∀ value < 16, value.digitChar.toUpper.utf8Size = 1 := by decide
  obtain ⟨bound, rfl | rfl⟩ := isDigit
  · exact lower value bound
  · exact upper value bound

section Pair

variable {first second : Char} {byte : Nat}

/-- A pair is a numeral of two characters, which may have a sign as any other. -/
theorem isSignedNumeral_pair_iff :
    IsSignedNumeral 16 byte [first, second] ↔ IsBytePair first second byte := by
  constructor
  · intro spelled
    generalize pair : [first, second] = characters at spelled
    cases spelled with
    | bare numeral =>
        subst pair
        obtain ⟨high, low, rfl, highDigit, below, lowDigit⟩ := numeral.of_pair
        have quotient : (high * 16 + low) / 16 = high := by omega
        have remainder : (high * 16 + low) % 16 = low := by omega
        exact .digits (by rwa [quotient]) (by rwa [remainder])
    | plus numeral =>
        cases pair
        exact .plus rfl numeral.of_singleton.2
  · intro isPair
    cases isPair with
    | digits high low =>
        have numeral := (IsNumeral.digit high.1 high).append low.1 low
        rw [Nat.div_add_mod'] at numeral
        exact .bare numeral
    | plus isPlus low =>
        subst isPlus
        exact .plus (.digit low.1 low)

namespace IsBytePair

theorem le (isPair : IsBytePair first second byte) : byte ≤ 255 := by
  cases isPair with
  | digits high _ =>
      have := high.1
      omega
  | plus _ low =>
      have := low.1
      omega

theorem byteLength_eq (isPair : IsBytePair first second byte) : byteLength [first, second] = 2 := by
  cases isPair with
  | digits high low => simp [utf8Size_of_isDigit high, utf8Size_of_isDigit low]
  | plus isPlus low =>
      subst isPlus
      simp [utf8Size_of_isDigit low]
      rfl

end IsBytePair

theorem readByte?_eq_some_iff :
    readByte? first second = some byte ↔ IsBytePair first second byte := by
  have reads : readByte? first second = some byte ↔
      readNatural 16 255 [first, second] = .ok byte := by
    rw [readByte?]
    cases readNatural 16 255 [first, second] <;> simp [Except.toOption]
  rw [reads, readNatural_eq_ok_iff, isSignedNumeral_pair_iff]
  exact and_iff_left_of_imp IsBytePair.le

end Pair

/-! ### Bytes -/

/-- The characters are read as bytes, two for each. -/
inductive PairsBytes : List Char → List Nat → Prop where
  | nil : PairsBytes [] []
  | cons {first second : Char} {byte : Nat} {digits : List Char} {bytes : List Nat} :
      IsBytePair first second byte → PairsBytes digits bytes →
        PairsBytes (first :: second :: digits) (byte :: bytes)

section Bytes

variable {digits : List Char} {bytes : List Nat}

/-- Pairs have an even number of bytes, two for each byte that they denote. -/
theorem PairsBytes.byteLength_eq (pairs : PairsBytes digits bytes) :
    byteLength digits = 2 * bytes.length := by
  induction pairs with
  | nil => rfl
  | @cons first second byte digits bytes isPair _ ih =>
      have two := isPair.byteLength_eq
      rw [byteLength_cons, byteLength_cons, byteLength_nil] at two
      rw [byteLength_cons, byteLength_cons, ih, List.length_cons]
      omega

theorem readBytes_eq_ok_iff {offset : Nat} :
    readBytes offset digits = .ok bytes ↔ PairsBytes digits bytes := by
  constructor
  · intro read
    induction offset, digits using readBytes.induct generalizing bytes with
    | case1 offset =>
        cases read
        exact .nil
    | case2 offset character => cases read
    | case3 offset first second rest noByte =>
        rw [readBytes, noByte] at read
        cases read
    | case4 offset first second rest byte isByte cause refused ih =>
        rw [readBytes, isByte] at read
        dsimp only at read
        rw [refused] at read
        cases read
    | case5 offset first second rest byte isByte others readRest ih =>
        rw [readBytes, isByte] at read
        dsimp only at read
        rw [readRest] at read
        cases read
        exact .cons (readByte?_eq_some_iff.mp isByte) (ih readRest)
  · intro pairs
    induction pairs generalizing offset with
    | nil => rfl
    | cons isPair _ ih => rw [readBytes, readByte?_eq_some_iff.mpr isPair, ih]

/-- Just the pairs that are read as the bytes of a text are read as this text. -/
theorem readHex_eq_ok_iff {characters : List Char} :
    readHex digits = .ok characters ↔ PairsBytes digits (encode characters) := by
  constructor
  · intro read
    rw [readHex] at read
    split at read
    · cases read
    · split at read
      · cases read
      · next bytes readPairs =>
        split at read
        · cases read
        · next decoded =>
          cases read
          rw [← decode_eq_ok_iff.mp decoded]
          exact readBytes_eq_ok_iff.mp readPairs
  · intro pairs
    have even : byteLength digits % 2 ≠ 1 := by
      rw [pairs.byteLength_eq]
      omega
    rw [readHex, if_neg even, readBytes_eq_ok_iff.mpr pairs]
    dsimp only
    rw [decode_encode]

end Bytes

/-! ### Digits -/

/-- The characters spell bytes, each with the digit of its upper half before the
digit of its lower half. -/
inductive SpellsBytes : List Char → List Nat → Prop where
  | nil : SpellsBytes [] []
  | pair {first second : Char} {byte : Nat} {digits : List Char} {bytes : List Nat} :
      IsDigit (byte / 16) first → IsDigit (byte % 16) second → SpellsBytes digits bytes →
        SpellsBytes (first :: second :: digits) (byte :: bytes)

theorem SpellsBytes.pairsBytes {digits : List Char} {bytes : List Nat}
    (spelled : SpellsBytes digits bytes) : PairsBytes digits bytes := by
  induction spelled with
  | nil => exact .nil
  | pair high low _ ih => exact .cons (.digits high low) ih

end TaskBoard.Text
