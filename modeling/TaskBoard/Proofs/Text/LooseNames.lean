import TaskBoard.Proofs.Text.Encoding
import TaskBoard.Text.Loose

/-!
# Words that are spelled loosely

A loose name is lower-cased with the whole table of Unicode, while labels are compared up
to the case of ASCII letters.  For words of ASCII letters without a `k` this is the same
(`looseName_eq_iff`): the Kelvin sign, whose lower-case form is `k`, is the only character
outside ASCII of which lower-casing leaves nothing outside ASCII.
-/

namespace TaskBoard.Text

/-- The characters that do not separate words. -/
def withoutSeparators (characters : List Char) : List Char :=
  characters.filter fun character => !isSeparator character

/-- The text is a word up to the case of ASCII letters, once the white space around it and
then the separators in it are gone. -/
def Spells (text word : String) : Prop :=
  eqIgnoringAsciiCase word.toList (withoutSeparators (trimChars text.toList)) = true

instance (text word : String) : Decidable (Spells text word) :=
  inferInstanceAs (Decidable (_ = true))

/-- A lower-case letter of ASCII that stands for no character outside ASCII. -/
def IsPlain (letter : Char) : Prop :=
  letter.toNat < 128 ∧ letter ≠ 'k' ∧ letter.toLower = letter

instance (letter : Char) : Decidable (IsPlain letter) := inferInstanceAs (Decidable (_ ∧ _))

/-- A word of plain letters. -/
def IsPlainWord (word : String) : Prop := ∀ letter ∈ word.toList, IsPlain letter

instance (word : String) : Decidable (IsPlainWord word) :=
  List.decidableBAll IsPlain word.toList

variable {character : Char} {characters others word : List Char}

/-! ### The case of ASCII letters -/

theorem toNat_toLower (character : Char) :
    character.toLower.toNat =
      if 65 ≤ character.toNat ∧ character.toNat ≤ 90 then character.toNat + 32
      else character.toNat := by
  have capital : (character.val ≥ 'A'.val ∧ character.val ≤ 'Z'.val) ↔
      65 ≤ character.toNat ∧ character.toNat ≤ 90 := Iff.rfl
  unfold Char.toLower
  split
  · next isCapital =>
    have bounds := capital.mp isCapital
    rw [if_pos bounds]
    change (character.toNat + 32) % 4294967296 = character.toNat + 32
    omega
  · next other => rw [if_neg (mt capital.mpr other)]

theorem toLower_eq_self (foreign : 128 ≤ character.toNat) : character.toLower = character := by
  rw [← Char.toNat_inj, toNat_toLower, if_neg (by omega)]

theorem toNat_lt_of_toLower (ascii : character.toLower.toNat < 128) : character.toNat < 128 := by
  rw [toNat_toLower] at ascii
  split at ascii <;> omega

theorem isSeparator_toLower (character : Char) :
    isSeparator character.toLower = isSeparator character := by
  have lowered := toNat_toLower character
  rw [Bool.eq_iff_iff]
  simp only [isSeparator, Bool.or_eq_true, beq_iff_eq, ← Char.toNat_inj]
  change (_ = 95 ∨ _ = 45) ∨ _ = 32 ↔ (_ = 95 ∨ _ = 45) ∨ _ = 32
  split at lowered <;> omega

theorem eqIgnoringAsciiCase_iff :
    eqIgnoringAsciiCase characters others = true ↔
      characters.map Char.toLower = others.map Char.toLower :=
  beq_iff_eq

theorem map_toLower_withoutSeparators (characters : List Char) :
    (withoutSeparators characters).map Char.toLower =
      withoutSeparators (characters.map Char.toLower) := by
  simp [withoutSeparators, List.filter_map, Function.comp_def, isSeparator_toLower]

/-- Texts that are equal up to the case of ASCII letters stay so without their separators. -/
theorem eqIgnoringAsciiCase_withoutSeparators
    (same : eqIgnoringAsciiCase characters others = true) :
    eqIgnoringAsciiCase (withoutSeparators characters) (withoutSeparators others) = true := by
  rw [eqIgnoringAsciiCase_iff] at same ⊢
  rw [map_toLower_withoutSeparators, map_toLower_withoutSeparators, same]

/-! ### Lower-casing outside ASCII -/

/-- But for the Kelvin sign, every run leads to letters outside ASCII, and none of it to a
surrogate, which would be no letter at all. -/
theorem lowered_of_mem_lowercaseRuns : ∀ run ∈ lowercaseRuns,
    run = ⟨0x212A, 0x212A, 1, 0x6B⟩ ∨
      128 ≤ run.lowered ∧
        (run.image run.last < 0xD800 ∨ 0xDFFF < run.lowered ∧ run.image run.last < 0x110000) := by
  decide +kernel

/-- Of a character outside ASCII, lower-casing leaves one outside ASCII or makes a `k`. -/
theorem lowerChar_foreign (foreign : 128 ≤ character.toNat) :
    lowerChar character = ['k'] ∨ ∃ lowered ∈ lowerChar character, 128 ≤ lowered.toNat := by
  rw [lowerChar, if_neg (Nat.not_lt.mpr foreign)]
  split
  · -- The dotted capital I leaves its dot.
    exact .inr ⟨Char.ofNat 0x307, by simp, by decide⟩
  · split
    · next run found =>
      have covered := List.find?_some found
      simp only [LowercaseRun.covers, Bool.and_eq_true, decide_eq_true_eq] at covered
      rcases lowered_of_mem_lowercaseRuns run (List.mem_of_find?_eq_some found) with
        rfl | ⟨high, valid⟩
      · have isKelvin : character.toNat = 0x212A := Nat.le_antisymm covered.1.2 covered.1.1
        rw [isKelvin]
        exact .inl rfl
      · refine .inr ⟨_, List.mem_singleton_self _, ?_⟩
        unfold LowercaseRun.image at valid ⊢
        rw [toNat_ofNat (by omega)]
        omega
    · exact .inr ⟨character, List.mem_singleton_self _, foreign⟩

theorem lowerChars_of_ascii (ascii : ∀ character ∈ characters, character.toNat < 128) :
    lowerChars characters = characters.map Char.toLower := by
  induction characters with
  | nil => rfl
  | cons first rest ih =>
      rw [List.forall_mem_cons] at ascii
      rw [lowerChars_cons, lowerChar, if_pos ascii.1, ih ascii.2]
      rfl

/-- Only ASCII is lower-cased to plain letters. -/
theorem ascii_of_lowerChars (plain : ∀ letter ∈ lowerChars characters, IsPlain letter) :
    ∀ character ∈ characters, character.toNat < 128 := by
  intro character member
  have lowered : ∀ letter ∈ lowerChar character, IsPlain letter :=
    fun letter isLowered => plain letter (List.mem_flatMap.mpr ⟨character, member, isLowered⟩)
  refine Nat.lt_of_not_le fun foreign => ?_
  rcases lowerChar_foreign foreign with kelvin | ⟨letter, isLowered, high⟩
  · rw [kelvin] at lowered
    exact (lowered 'k' List.mem_cons_self).2.1 rfl
  · exact Nat.not_lt.mpr high (lowered letter isLowered).1

section Plain

variable (plain : ∀ letter ∈ word, IsPlain letter)
include plain

theorem map_toLower_of_plain : word.map Char.toLower = word := by
  rw [List.map_congr_left fun letter member => (plain letter member).2.2, List.map_id']

/-- Characters are lower-cased to a plain word exactly if they are the word up to the case
of ASCII letters. -/
theorem lowerChars_eq_iff :
    lowerChars characters = word ↔ eqIgnoringAsciiCase word characters = true := by
  rw [eqIgnoringAsciiCase_iff, map_toLower_of_plain plain]
  constructor
  · rintro rfl
    exact lowerChars_of_ascii (ascii_of_lowerChars plain)
  · rintro rfl
    refine lowerChars_of_ascii fun character member => toNat_lt_of_toLower ?_
    exact (plain character.toLower (List.mem_map_of_mem member)).1

end Plain

section Words

variable {text word : String} (plain : IsPlainWord word)
include plain

/-- The loose name of a text is a plain word exactly if the text spells it. -/
theorem looseName_eq_iff : looseName text = word ↔ Spells text word := by
  rw [looseName, ← String.toList_inj, String.toList_ofList]
  exact lowerChars_eq_iff plain

/-- With the Kelvin sign, a text has a loose name that it does not spell. -/
example : looseName "tas\u212A" = "task" ∧ ¬ Spells "tas\u212A" "task" := by
  decide

/-- A text that spells a plain word is ASCII but for the white space around it. -/
theorem Spells.ascii (spells : Spells text word) :
    ∀ character ∈ trimChars text.toList, character.toNat < 128 := by
  intro character member
  refine Nat.lt_of_not_le fun foreign => ?_
  have noSeparator : isSeparator character = false := by
    simp only [isSeparator, Bool.or_eq_false_iff, beq_eq_false_iff_ne]
    refine ⟨⟨?_, ?_⟩, ?_⟩ <;> rintro rfl <;> exact absurd foreign (by decide)
  have kept : character ∈ withoutSeparators (trimChars text.toList) :=
    List.mem_filter.mpr ⟨member, by rw [noSeparator]; rfl⟩
  have same := eqIgnoringAsciiCase_iff.mp spells
  rw [map_toLower_of_plain plain] at same
  have isLetter : character ∈ word.toList := by
    rw [same, ← toLower_eq_self foreign]
    exact List.mem_map_of_mem kept
  exact Nat.not_lt.mpr foreign (plain character isLetter).1

end Words

end TaskBoard.Text
