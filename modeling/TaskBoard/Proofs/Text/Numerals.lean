import Mathlib.Data.List.Induction
import Mathlib.Data.Nat.Digits.Defs
import TaskBoard.Text.Numeral

/-!
# Numerals that spell a number

`IsNumeral` says which characters spell a number in a base: digits of either
case, the most significant first, perhaps behind zeros.  A numeral is read as
the number that it spells, unless that number is beyond the limit.
-/

namespace TaskBoard.Text

variable {base limit number value : Nat} {character : Char} {characters : List Char}

/-- The character is the digit of a value, in either case. -/
def IsDigit (value : Nat) (character : Char) : Prop :=
  value < 16 ∧ (character = value.digitChar ∨ character = value.digitChar.toUpper)

instance (value : Nat) (character : Char) : Decidable (IsDigit value character) :=
  inferInstanceAs
    (Decidable (value < 16 ∧ (character = value.digitChar ∨ character = value.digitChar.toUpper)))

/-- The characters spell a number in a base. -/
inductive IsNumeral (base : Nat) : Nat → List Char → Prop where
  | digit {value : Nat} {character : Char} :
      value < base → IsDigit value character → IsNumeral base value [character]
  | append {number value : Nat} {characters : List Char} {character : Char} :
      IsNumeral base number characters → value < base → IsDigit value character →
        IsNumeral base (number * base + value) (characters ++ [character])

theorem digitValue?_of_isDigit (isDigit : IsDigit value character) :
    digitValue? character = some value := by
  have lower : ∀ value < 16, digitValue? value.digitChar = some value := by decide
  have upper : ∀ value < 16, digitValue? value.digitChar.toUpper = some value := by decide
  obtain ⟨bound, rfl | rfl⟩ := isDigit
  · exact lower value bound
  · exact upper value bound

theorem digitBelow?_of_isDigit (below : value < base) (isDigit : IsDigit value character) :
    digitBelow? base character = some value := by
  simp [digitBelow?, digitValue?_of_isDigit isDigit, below]

namespace IsNumeral

theorem ne_nil (numeral : IsNumeral base number characters) : characters ≠ [] := by
  cases numeral <;> simp

/-- A numeral has digits only. -/
theorem digitValue?_isSome (numeral : IsNumeral base number characters) :
    ∀ character ∈ characters, (digitValue? character).isSome := by
  induction numeral with
  | digit below isDigit => simp [digitValue?_of_isDigit isDigit]
  | append numeral below isDigit ih =>
      intro character member
      rcases List.mem_append.mp member with front | back
      · exact ih character front
      · rw [List.mem_singleton.mp back, digitValue?_of_isDigit isDigit]
        rfl

/-- The usual digits of a number spell it. -/
theorem toDigits (several : 1 < base) (few : base ≤ 16) (number : Nat) :
    IsNumeral base number (base.toDigits number) := by
  induction number using Nat.strong_induction_on with
  | h number ih =>
      by_cases single : number < base
      · rw [Nat.toDigits_of_lt_base single]
        exact .digit single ⟨Nat.lt_of_lt_of_le single few, .inl rfl⟩
      · have reaches : base ≤ number := Nat.le_of_not_lt single
        have positive : 0 < base := Nat.zero_lt_of_lt several
        have below : number % base < base := Nat.mod_lt number positive
        have smaller : number / base < number :=
          Nat.div_lt_self (Nat.lt_of_lt_of_le positive reaches) several
        rw [Nat.toDigits_of_base_le several reaches]
        have spelled := (ih (number / base) smaller).append below
          ⟨Nat.lt_of_lt_of_le below few, .inl rfl⟩
        rwa [Nat.div_add_mod' number base] at spelled

end IsNumeral

theorem readDigits_append (start : Nat) (front back : List Char) :
    readDigits base limit start (front ++ back) =
      readDigits base limit start front >>= fun value => readDigits base limit value back := by
  induction front generalizing start with
  | nil => rfl
  | cons character front ih =>
      rw [List.cons_append, readDigits, readDigits]
      cases digitBelow? base character with
      | none => rfl
      | some digit =>
          dsimp only
          split
          · rfl
          · exact ih (start * base + digit)

theorem readDigits_of_isNumeral (numeral : IsNumeral base number characters)
    (fits : number ≤ limit) : readDigits base limit 0 characters = .ok number := by
  induction numeral with
  | digit below isDigit =>
      simp [readDigits, digitBelow?_of_isDigit below isDigit, Nat.not_lt.mpr fits]
  | @append number value characters character numeral below isDigit ih =>
      have front : number ≤ limit :=
        calc
          number ≤ number * base := Nat.le_mul_of_pos_right number (Nat.zero_lt_of_lt below)
          _ ≤ number * base + value := Nat.le_add_right _ value
          _ ≤ limit := fits
      rw [readDigits_append, ih front]
      simp [readDigits, digitBelow?_of_isDigit below isDigit, bind, Except.bind,
        Nat.not_lt.mpr fits]

theorem readNatural_of_head_ne_plus (head : characters.head? ≠ some '+')
    (nonempty : characters ≠ []) :
    readNatural base limit characters = readDigits base limit 0 characters := by
  unfold readNatural
  split
  · contradiction
  · exact absurd rfl head
  · exact absurd rfl head
  · rfl

/-- Taking in decimal digits one after the other gives the number that they denote. -/
theorem foldl_eq_ofDigitChars (digits : List Char) :
    digits.foldl (fun value digit => value * 10 + (digit.toNat - 48)) 0 =
      Nat.ofDigitChars 10 digits 0 := by
  rw [Nat.ofDigitChars_eq_foldl]
  simp only [Nat.mul_comm, Char.reduceToNat]

/-- A numeral is read as the number that it spells. -/
theorem readNatural_of_isNumeral (numeral : IsNumeral base number characters)
    (fits : number ≤ limit) : readNatural base limit characters = .ok number := by
  have head : characters.head? ≠ some '+' := by
    intro plus
    exact absurd (numeral.digitValue?_isSome '+' (List.mem_of_head? plus)) (by decide)
  rw [readNatural_of_head_ne_plus head numeral.ne_nil, readDigits_of_isNumeral numeral fits]

/-! ### What is read as a number -/

theorem toNat_lt_of_digitValue? (counts : digitValue? character = some value) :
    character.toNat < 128 := by
  simp only [digitValue?, Char.le_def, UInt32.le_iff_toNat_le] at counts
  change character.val.toNat < 128
  simp only [Char.reduceVal, UInt32.reduceToNat] at counts
  split_ifs at counts <;> omega

/-- A character that counts as a digit is the digit of its value. -/
theorem isDigit_of_digitValue? (counts : digitValue? character = some value) :
    IsDigit value character := by
  have table : ∀ code < 128, ∀ value ∈ digitValue? (Char.ofNat code),
      IsDigit value (Char.ofNat code) := by decide
  have isDigit := table character.toNat (toNat_lt_of_digitValue? counts)
  rw [Char.ofNat_toNat] at isDigit
  exact isDigit value counts

theorem digitBelow?_eq_some_iff :
    digitBelow? base character = some value ↔ value < base ∧ IsDigit value character := by
  constructor
  · intro below
    obtain ⟨counts, small⟩ := Option.filter_eq_some_iff.mp below
    exact ⟨of_decide_eq_true small, isDigit_of_digitValue? counts⟩
  · rintro ⟨below, isDigit⟩
    exact digitBelow?_of_isDigit below isDigit

/-- Reading one more digit adds it to what was read. -/
theorem of_readDigits_singleton {start : Nat}
    (read : readDigits base limit start [character] = .ok number) :
    ∃ value, value < base ∧ IsDigit value character ∧
      number = start * base + value ∧ number ≤ limit := by
  rw [readDigits] at read
  split at read
  · cases read
  · next value counts =>
    obtain ⟨below, isDigit⟩ := digitBelow?_eq_some_iff.mp counts
    dsimp only at read
    split at read
    · cases read
    · next fits =>
      cases read
      exact ⟨value, below, isDigit, rfl, Nat.le_of_not_lt fits⟩

/-- Digits that are read spell the number that they are read as. -/
theorem isNumeral_of_readDigits (nonempty : characters ≠ [])
    (read : readDigits base limit 0 characters = .ok number) :
    IsNumeral base number characters ∧ number ≤ limit := by
  induction characters using List.reverseRecOn generalizing number with
  | nil => contradiction
  | append_singleton front last ih =>
      rw [readDigits_append] at read
      cases readFront : readDigits base limit 0 front with
      | error cause =>
          rw [readFront] at read
          cases read
      | ok before =>
          rw [readFront] at read
          obtain ⟨value, below, isDigit, rfl, fits⟩ := of_readDigits_singleton read
          refine ⟨?_, fits⟩
          rcases eq_or_ne front [] with rfl | more
          · cases readFront
            rw [Nat.zero_mul, Nat.zero_add]
            exact .digit below isDigit
          · exact (ih more readFront).1.append below isDigit

/-- The characters spell a number in a base, perhaps behind a plus sign. -/
inductive IsSignedNumeral (base number : Nat) : List Char → Prop where
  | bare {characters : List Char} :
      IsNumeral base number characters → IsSignedNumeral base number characters
  | plus {digits : List Char} :
      IsNumeral base number digits → IsSignedNumeral base number ('+' :: digits)

theorem readNatural_plus (digits : List Char) (nonempty : digits ≠ []) :
    readNatural base limit ('+' :: digits) = readDigits base limit 0 digits := by
  rw [readNatural]
  simpa using nonempty

/-- Just the numerals within the limit are read, with a plus sign or without. -/
theorem readNatural_eq_ok_iff :
    readNatural base limit characters = .ok number ↔
      IsSignedNumeral base number characters ∧ number ≤ limit := by
  constructor
  · intro read
    unfold readNatural at read
    split at read
    · cases read
    · cases read
    · next rest nonempty =>
      obtain ⟨numeral, fits⟩ := isNumeral_of_readDigits (by simpa using nonempty) read
      exact ⟨.plus numeral, fits⟩
    · next rest nonempty _ _ =>
      obtain ⟨numeral, fits⟩ := isNumeral_of_readDigits (by simpa using nonempty) read
      exact ⟨.bare numeral, fits⟩
  · rintro ⟨spelled, fits⟩
    cases spelled with
    | bare numeral => exact readNatural_of_isNumeral numeral fits
    | plus numeral =>
        rw [readNatural_plus _ numeral.ne_nil]
        exact readDigits_of_isNumeral numeral fits

namespace IsNumeral

/-- A numeral of one character is a digit. -/
theorem of_singleton (numeral : IsNumeral base number [character]) :
    number < base ∧ IsDigit number character := by
  generalize single : [character] = characters at numeral
  cases numeral with
  | digit below isDigit =>
      cases single
      exact ⟨below, isDigit⟩
  | append front below isDigit =>
      change [] ++ [character] = _ at single
      obtain ⟨empty, -⟩ := List.append_singleton_inj.mp single
      exact absurd empty.symm front.ne_nil

/-- A numeral of two characters is two digits. -/
theorem of_pair {first second : Char} (numeral : IsNumeral base number [first, second]) :
    ∃ high low, number = high * base + low ∧ IsDigit high first ∧ low < base ∧
      IsDigit low second := by
  generalize pair : [first, second] = characters at numeral
  cases numeral with
  | digit below isDigit => cases pair
  | append front below isDigit =>
      change [first] ++ [second] = _ at pair
      obtain ⟨rfl, rfl⟩ := List.append_singleton_inj.mp pair
      exact ⟨_, _, rfl, front.of_singleton.2, below, isDigit⟩

end IsNumeral

end TaskBoard.Text
