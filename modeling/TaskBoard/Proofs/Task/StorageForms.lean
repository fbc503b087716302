import TaskBoard.Proofs.Text.HexReading
import TaskBoard.Task.Storage

/-!
# The forms in which storage gives single values

A text is given as itself or by the hexadecimal digits of its bytes, a status or
priority by name or by code, and a reward as a number or by a decimal or
hexadecimal numeral.  Each form of a value is read as the value.
-/

namespace TaskBoard.Storage

/-- The text looks like the hexadecimal form of a text. -/
def BeginsLikeBytes (text : String) : Prop := ['0', 'x'] <+: text.toList

instance (text : String) : Decidable (BeginsLikeBytes text) :=
  inferInstanceAs (Decidable (['0', 'x'] <+: text.toList))

/-- The values that give a text: the text itself, unless it looks like bytes, or
the hexadecimal digits of its bytes. -/
inductive WritesText (text : String) : Json → Prop where
  | itself : ¬ BeginsLikeBytes text → WritesText text (.string text)
  | bytes {digits : List Char} :
      Text.SpellsBytes digits (text.toUTF8.data.toList.map UInt8.toNat) →
        WritesText text (.string ("0x" ++ String.ofList digits))

/-- The values that give a status. -/
inductive WritesStatus (status : Status) : Json → Prop where
  | name : WritesStatus status (.string status.name)
  | code : WritesStatus status (.nat status.code)

/-- The values that give a priority. -/
inductive WritesPriority (priority : Priority) : Json → Prop where
  | name : WritesPriority priority (.string priority.name)
  | code : WritesPriority priority (.nat priority.ordinal)

/-- The values that give a reward. -/
inductive WritesReward (reward : Word64) : Json → Prop where
  | number : WritesReward reward (.nat reward.val)
  | decimal {digits : List Char} : Text.IsNumeral 10 reward.val digits →
      WritesReward reward (.string (String.ofList digits))
  | hexadecimal {digits : List Char} : Text.IsNumeral 16 reward.val digits →
      WritesReward reward (.string ("0x" ++ String.ofList digits))

theorem afterHexMark?_eq_none {characters : List Char} (plain : ¬ ['0', 'x'] <+: characters) :
    afterHexMark? characters = none := by
  unfold afterHexMark?
  split
  · next digits => exact absurd ⟨digits, rfl⟩ plain
  · rfl

@[simp] theorem afterHexMark?_mark (digits : List Char) :
    afterHexMark? ("0x" ++ String.ofList digits).toList = some digits := by
  simp only [String.toList_append, String.toList_ofList]
  rfl

theorem readText_of_writesText (name : String) (access : Access) {text : String} {json : Json}
    (writes : WritesText text json) :
    ∃ raw, Decoder.string access json = .ok raw ∧ readText name raw = .ok text := by
  cases writes with
  | itself plain =>
      refine ⟨text, rfl, ?_⟩
      rw [readText, afterHexMark?_eq_none plain]
  | @bytes digits spelled =>
      refine ⟨_, rfl, ?_⟩
      rw [← Text.encode_toList] at spelled
      rw [readText, afterHexMark?_mark]
      dsimp only
      rw [Text.readHex_eq_ok_iff.mpr spelled.pairsBytes]
      dsimp only
      rw [String.ofList_toList]

theorem Scalar.decode_nat (name : String) (access : Access) (word : Word64) :
    Scalar.decode name access (.nat word.val) = .ok (.number word) := by
  simp [Scalar.decode, Json.nat]

theorem readStatus_of_writesStatus (name : String) (access : Access) {status : Status}
    {json : Json} (writes : WritesStatus status json) :
    ∃ raw, Scalar.decode name access json = .ok raw ∧ readStatus raw = .ok status := by
  cases writes with
  | name =>
      have read : Status.ofText status.name = .ok status := by cases status <;> decide
      exact ⟨.text status.name, rfl, by rw [readStatus, read]⟩
  | code =>
      have fits : status.code ≤ 18446744073709551615 := by cases status <;> decide
      exact ⟨.number ⟨status.code, fits⟩, Scalar.decode_nat name access ⟨_, fits⟩,
        by simp [readStatus]⟩

theorem readPriority_of_writesPriority (name : String) (access : Access) {priority : Priority}
    {json : Json} (writes : WritesPriority priority json) :
    ∃ raw, Scalar.decode name access json = .ok raw ∧ readPriority raw = .ok priority := by
  cases writes with
  | name =>
      have read : Priority.ofText priority.name = .ok priority := by cases priority <;> decide
      exact ⟨.text priority.name, rfl, by rw [readPriority, read]⟩
  | code =>
      have fits : priority.ordinal ≤ 18446744073709551615 := by cases priority <;> decide
      exact ⟨.number ⟨priority.ordinal, fits⟩, Scalar.decode_nat name access ⟨_, fits⟩,
        by simp [readPriority]⟩

/-- A decimal numeral does not look like a hexadecimal one. -/
theorem readNumeral_of_isNumeral {number : Nat} {digits : List Char}
    (numeral : Text.IsNumeral 10 number digits) (fits : number ≤ numeralLimit) :
    readNumeral digits = .ok number := by
  have plain : ¬ ['0', 'x'] <+: digits := by
    intro marked
    have isDigit := numeral.digitValue?_isSome 'x' (marked.subset (by decide))
    exact absurd isDigit (by decide)
  rw [readNumeral, afterHexMark?_eq_none plain]
  exact Text.readNatural_of_isNumeral numeral fits

theorem readNumeral_mark {number : Nat} {digits : List Char}
    (numeral : Text.IsNumeral 16 number digits) (fits : number ≤ numeralLimit) :
    readNumeral ("0x" ++ String.ofList digits).toList = .ok number := by
  rw [readNumeral, afterHexMark?_mark]
  exact Text.readNatural_of_isNumeral numeral fits

theorem readReward_of_writesReward (name : String) (access : Access) {reward : Word64}
    {json : Json} (writes : WritesReward reward json) :
    ∃ raw, Scalar.decode name access json = .ok raw ∧ readReward raw = .ok reward := by
  have fits : reward.val ≤ numeralLimit := Nat.le_trans reward.le_limit (by decide)
  cases writes with
  | number => exact ⟨.number reward, Scalar.decode_nat name access reward, rfl⟩
  | decimal numeral =>
      refine ⟨.text _, rfl, ?_⟩
      rw [readReward, String.toList_ofList, readNumeral_of_isNumeral numeral fits]
      simp
  | hexadecimal numeral =>
      refine ⟨.text _, rfl, ?_⟩
      rw [readReward, readNumeral_mark numeral fits]
      simp

theorem word8_level (difficulty : Difficulty) (access : Access) :
    Decoder.word8 access (.nat difficulty.level) = .ok difficulty.word := by
  have read := Bounded.ofNat?_val difficulty.word
  rw [Difficulty.word] at read
  simp [Decoder.word8, Decoder.natural, Json.nat, read, Difficulty.word]

theorem integer_millis (instant : Instant) (access : Access) :
    Decoder.integer access (.int instant.millis) = .ok instant.millis := by
  have := instant.after_first
  have := instant.before_last
  exact if_pos (by omega)

theorem readInstant_millis (name : String) (instant : Instant) :
    readInstant name instant.millis = .ok instant := by
  rw [readInstant, Instant.ofMillis?_millis]

theorem readInstant?_millis (name : String) (instant : Option Instant) :
    readInstant? name (instant.map Instant.millis) = .ok instant := by
  cases instant with
  | none => rfl
  | some instant =>
      rw [Option.map_some, readInstant?, readInstant_millis]
      rfl

theorem readDifficulty_word (difficulty : Difficulty) :
    readDifficulty difficulty.word = .ok difficulty := by
  rw [readDifficulty, Difficulty.ofLevel_word]

end TaskBoard.Storage
