import TaskBoard.Json.Printer
import TaskBoard.Json.Reader
import TaskBoard.Proofs.Text.Numerals

/-!
# JSON text that spells a value

`Json.Spells` says which texts spell a value within a number of levels of nesting:
strings with the escapes that the printer writes, whole numbers of sixty-four bits,
and any white space before a value, a name or a closing bracket.  Each such text is
read as the value.
-/

namespace TaskBoard.Json

/-! ## White space -/

/-- The white space of the JSON grammar. -/
def IsSpace (character : Char) : Prop :=
  character = ' ' ∨ character = '\n' ∨ character = '\t' ∨ character = '\r'

instance (character : Char) : Decidable (IsSpace character) :=
  inferInstanceAs (Decidable (_ ∨ _))

variable {space text rest : List Char} {character : Char}

theorem skipSpace_cons (visible : ¬ IsSpace character) :
    skipSpace (character :: rest) = character :: rest := by
  rw [skipSpace]
  exact if_neg visible

theorem skipSpace_comma (rest : List Char) : skipSpace (',' :: rest) = ',' :: rest :=
  skipSpace_cons (by decide)

theorem skipSpace_append (blank : ∀ character ∈ space, IsSpace character) :
    skipSpace (space ++ rest) = skipSpace rest := by
  induction space with
  | nil => rfl
  | cons first others ih =>
      rw [List.forall_mem_cons] at blank
      rw [List.cons_append, skipSpace]
      exact (if_pos blank.1).trans (ih blank.2)

theorem skipSpace_skipSpace (text : List Char) : skipSpace (skipSpace text) = skipSpace text := by
  induction text with
  | nil => rfl
  | cons first others ih =>
      rw [skipSpace]
      split
      · exact ih
      · next visible => exact skipSpace_cons visible

/-! ## Strings -/

theorem hexValue?_hexDigit {value : Nat} (bound : value < 16) :
    hexValue? (hexDigit value) = some value := by
  have all : ∀ value < 16, hexValue? (hexDigit value) = some value := by decide
  exact all value bound

/-- The numeric escape of a control character denotes it. -/
theorem readCodeEscape?_control (control : character.toNat < 0x20) :
    readCodeEscape? ('0' :: '0' :: hexDigit (character.toNat / 16) ::
      hexDigit (character.toNat % 16) :: rest) = some (character, rest) := by
  have zero : hexValue? '0' = some 0 := by decide
  have high := hexValue?_hexDigit (show character.toNat / 16 < 16 by omega)
  have low := hexValue?_hexDigit (show character.toNat % 16 < 16 by omega)
  have code : ((0 * 16 + 0) * 16 + character.toNat / 16) * 16 + character.toNat % 16 =
      character.toNat := by omega
  simp only [readCodeEscape?, readHex4?, zero, high, low, bind, Option.bind, pure, code]
  rw [if_pos (by omega), Char.ofNat_toNat]

theorem readString?_code {fuel : Nat} {done : List Char} {escaped : Char} {code : List Char}
    (read : readCodeEscape? code = some (escaped, rest)) :
    readString? (fuel + 1) done ('\\' :: 'u' :: code) =
      readString? fuel (escaped :: done) rest := by
  simp [readString?, read]

theorem readString?_itself {fuel : Nat} {done : List Char} (notQuote : character ≠ '"')
    (visible : ¬ character.toNat < 0x20) (notBackslash : character ≠ '\\') :
    readString? (fuel + 1) done (character :: rest) =
      readString? fuel (character :: done) rest := by
  conv => lhs; unfold readString?
  rw [if_neg notQuote, if_neg visible, if_neg notBackslash]

/-- A character is read from what is written for it. -/
theorem readString?_escapeChar (fuel : Nat) (done : List Char) (character : Char) :
    readString? (fuel + 1) done (escapeChar character ++ rest) =
      readString? fuel (character :: done) rest := by
  unfold escapeChar
  split
  · rfl
  · rfl
  · rfl
  · rfl
  · rfl
  · rfl
  · rfl
  · next notQuote notBackslash _ _ _ _ _ =>
    split
    · next control => exact readString?_code (readCodeEscape?_control control)
    · next visible => exact readString?_itself notQuote visible notBackslash

/-- The characters of a string are read up to its closing mark. -/
theorem readString?_flatMap (characters : List Char) {fuel : Nat} {done : List Char}
    (enough : characters.length < fuel) :
    readString? fuel done (characters.flatMap escapeChar ++ '"' :: rest) =
      some (String.ofList (done.reverse ++ characters), rest) := by
  induction characters generalizing fuel done with
  | nil =>
      obtain ⟨fuel, rfl⟩ := Nat.exists_eq_add_one.mpr enough
      rw [List.append_nil]
      rfl
  | cons first others ih =>
      obtain ⟨fuel, rfl⟩ := Nat.exists_eq_add_one.mpr (Nat.zero_lt_of_lt enough)
      rw [List.flatMap_cons, List.append_assoc, readString?_escapeChar,
        ih (Nat.lt_of_succ_lt_succ enough), List.reverse_cons, List.append_assoc]
      rfl

theorem length_le_length_flatMap (characters : List Char) :
    characters.length ≤ (characters.flatMap escapeChar).length := by
  induction characters with
  | nil => exact Nat.le_refl _
  | cons first others ih =>
      have written : 0 < (escapeChar first).length := by
        unfold escapeChar
        split
        case h_8 => split <;> exact Nat.zero_lt_succ _
        all_goals exact Nat.zero_lt_succ _
      rw [List.flatMap_cons, List.length_append, List.length_cons]
      omega

/-! ## Numbers -/

/-- The text does not continue a whole number. -/
def EndsNumber (rest : List Char) : Prop :=
  ∀ character ∈ rest.head?, character.isDigit = false ∧ character ≠ '.' ∧ character ≠ 'e' ∧
    character ≠ 'E'

/-- Only zero is written with a leading zero. -/
theorem head?_toDigits_ne_zero {number : Nat} (positive : 0 < number) :
    (Nat.toDigits 10 number).head? ≠ some '0' := by
  -- The first digit is that of the number without its last digit.
  induction number using Nat.strong_induction_on with
  | h number ih =>
      by_cases single : number < 10
      · have all : ∀ digit < 10, 0 < digit → [Nat.digitChar digit].head? ≠ some '0' := by decide
        rw [Nat.toDigits_of_lt_base single]
        exact all number single positive
      · have reaches : 10 ≤ number := Nat.le_of_not_lt single
        have front := ih (number / 10) (by omega) (by omega)
        rw [Nat.toDigits_of_base_le (by decide) reaches, List.head?_append]
        intro zero
        cases first : (Nat.toDigits 10 (number / 10)).head? with
        | none => exact Nat.toDigits_ne_nil (List.head?_eq_none_iff.mp first)
        | some digit =>
            rw [first] at zero front
            exact front zero

theorem decimalValue_toDigits (number : Nat) : decimalValue (Nat.toDigits 10 number) = number :=
  (Text.foldl_eq_ofDigitChars _).trans (Nat.ofDigitChars_toDigits (by decide) (by decide))

/-- The digits of a number are read as a numeral without fraction and exponent. -/
theorem readNumeral?_toDigits (number : Nat) (ends : EndsNumber rest) :
    readNumeral? (Nat.toDigits 10 number ++ rest) =
      some (⟨Nat.toDigits 10 number, [], none⟩, rest) := by
  have isDigit : ∀ character ∈ Nat.toDigits 10 number, character.isDigit = true :=
    fun _ => Nat.isDigit_of_mem_toDigits (by decide) (by decide)
  have taken :
      (Nat.toDigits 10 number ++ rest).takeWhile Char.isDigit = Nat.toDigits 10 number := by
    rw [List.takeWhile_append_of_pos isDigit]
    cases rest with
    | nil => simp
    | cons first others => simp [(ends first rfl).1]
  have dropped : (Nat.toDigits 10 number ++ rest).dropWhile Char.isDigit = rest := by
    rw [List.dropWhile_append_of_pos isDigit]
    cases rest with
    | nil => rfl
    | cons first others => simp [(ends first rfl).1]
  have wellFormed : ¬ ((Nat.toDigits 10 number).isEmpty ∨
      ((Nat.toDigits 10 number).head? = some '0' ∧ 1 < (Nat.toDigits 10 number).length)) := by
    rintro (empty | ⟨zero, several⟩)
    · exact Nat.toDigits_ne_nil (List.isEmpty_iff.mp empty)
    · rcases Nat.eq_zero_or_pos number with rfl | positive
      · exact absurd several (by decide)
      · exact head?_toDigits_ne_zero positive zero
  rw [readNumeral?, taken, dropped, if_neg wellFormed]
  cases rest with
  | nil => rfl
  | cons first others =>
      obtain ⟨_, notPoint, notSmall, notGreat⟩ := ends first rfl
      simp [notPoint, notSmall, notGreat]

theorem readNumber?_toDigits (number : Nat) (fits : number ≤ greatestWhole)
    (ends : EndsNumber rest) :
    readNumber? false (Nat.toDigits 10 number ++ rest) = some (.nat number, rest) := by
  have whole : (⟨Nat.toDigits 10 number, [], none⟩ : Numeral).toJson? false =
      some (.nat number) := by
    simp [Numeral.toJson?, Numeral.isWhole, decimalValue_toDigits, fits, Json.nat]
  simp [readNumber?, readNumeral?_toDigits number ends, whole]

theorem readNumber?_minus (number : Nat) (positive : 0 < number)
    (fits : number ≤ 9223372036854775808) (ends : EndsNumber rest) :
    readNumber? true (Nat.toDigits 10 number ++ rest) = some (.int (-number), rest) := by
  have whole : (⟨Nat.toDigits 10 number, [], none⟩ : Numeral).toJson? true =
      some (.int (-number)) := by
    simp [Numeral.toJson?, Numeral.isWhole, decimalValue_toDigits, fits, positive]
  simp [readNumber?, readNumeral?_toDigits number ends, whole]

/-! ## Values -/

variable {fuel depth left : Nat}

/-- A value that begins with a digit is a number. -/
theorem readValue?_of_isDigit (isDigit : character.isDigit = true) :
    readValue? (fuel + 1) left (character :: rest) = readNumber? false (character :: rest) := by
  have visible : ¬ IsSpace character := by
    rintro (rfl | rfl | rfl | rfl) <;> cases isDigit
  rw [readValue?, skipSpace_cons visible]
  split
  case h_8 => rfl
  all_goals
    next same =>
      cases same
      cases isDigit

/-- A whole number of sixty-four bits is read up to the character behind it. -/
theorem readValue?_int {value : Int} (lower : -9223372036854775808 ≤ value)
    (upper : value ≤ 18446744073709551615) (ends : EndsNumber rest) :
    readValue? (fuel + 1) left ((toString value).toList ++ rest) = some (.int value, rest) := by
  rw [Int.toString_eq_repr, Int.repr_eq_if]
  split
  · next nonnegative =>
    have number := readNumber?_toDigits value.toNat (by rw [greatestWhole]; omega) ends
    have nonempty : Nat.toDigits 10 value.toNat ≠ [] := Nat.toDigits_ne_nil
    obtain ⟨first, others, spelled⟩ := List.exists_cons_of_ne_nil nonempty
    have isDigit : first.isDigit = true :=
      Nat.isDigit_of_mem_toDigits (by decide) (by decide) (spelled ▸ List.mem_cons_self)
    rw [spelled, List.cons_append] at number
    rw [Nat.toList_repr, spelled, List.cons_append, readValue?_of_isDigit isDigit, number, Json.nat,
      Int.toNat_of_nonneg nonnegative]
  · next negative =>
    have number := readNumber?_minus (-value).toNat (by omega) (by omega) ends
    rw [Int.toNat_of_nonneg (by omega), Int.neg_neg] at number
    rw [String.toList_append, Nat.toList_repr]
    exact number

/-- Texts of items between brackets, with commas between them and white space before the
closing bracket. -/
def bracket (opening closing : Char) (space : List Char) (texts : List (List Char)) : List Char :=
  opening :: ([','].intercalate texts ++ (space ++ [closing]))

/-- The text of a member: white space, its name, a colon and the text of its value. -/
structure MemberText where
  space : List Char
  name : String
  value : Json
  text : List Char

namespace MemberText

/-- The characters of the text of a member. -/
def characters (member : MemberText) : List Char :=
  member.space ++ ((stringText member.name).toList ++ ':' :: member.text)

/-- The member of the object. -/
def member (member : MemberText) : String × Json := (member.name, member.value)

end MemberText

/-- The text spells a value with at most a number of levels of nesting. -/
inductive Spells : (depth : Nat) → Json → List Char → Prop where
  | null {depth : Nat} : Spells depth .null "null".toList
  | true {depth : Nat} : Spells depth (.bool true) "true".toList
  | false {depth : Nat} : Spells depth (.bool false) "false".toList
  | int {depth : Nat} {value : Int} : -9223372036854775808 ≤ value →
      value ≤ 18446744073709551615 → Spells depth (.int value) (toString value).toList
  | string {depth : Nat} (value : String) : Spells depth (.string value) (stringText value).toList
  | space {depth : Nat} {json : Json} {text : List Char} {character : Char} : IsSpace character →
      Spells depth json text → Spells depth json (character :: text)
  | emptyArray {depth : Nat} : Spells (depth + 1) (.array []) "[]".toList
  | array {depth : Nat} {pieces : List (Json × List Char)} {space : List Char} : pieces ≠ [] →
      (∀ piece ∈ pieces, Spells depth piece.1 piece.2) → (∀ character ∈ space, IsSpace character) →
      Spells (depth + 1) (.array (pieces.map Prod.fst))
        (bracket '[' ']' space (pieces.map Prod.snd))
  | emptyObject {depth : Nat} : Spells (depth + 1) (.object []) "\x7b\x7d".toList
  | object {depth : Nat} {pieces : List MemberText} {space : List Char} : pieces ≠ [] →
      (∀ piece ∈ pieces, Spells depth piece.value piece.text) →
      (∀ piece ∈ pieces, ∀ character ∈ piece.space, IsSpace character) →
      (∀ character ∈ space, IsSpace character) →
      Spells (depth + 1) (.object (pieces.map MemberText.member))
        (bracket '\x7b' '\x7d' space (pieces.map MemberText.characters))

theorem EndsNumber.cons (notDigit : character.isDigit = false)
    (others : character ≠ '.' ∧ character ≠ 'e' ∧ character ≠ 'E') :
    EndsNumber (character :: rest) := by
  rintro _ ⟨⟩
  exact ⟨notDigit, others⟩

theorem EndsNumber.comma (rest : List Char) : EndsNumber (',' :: rest) :=
  .cons rfl (by decide)

theorem EndsNumber.append (blank : ∀ character ∈ space, IsSpace character)
    (ends : EndsNumber rest) : EndsNumber (space ++ rest) := by
  cases space with
  | nil => exact ends
  | cons first others =>
      have isSpace := blank first List.mem_cons_self
      rcases isSpace with rfl | rfl | rfl | rfl <;>
        exact .cons (by decide) (by decide)

/-- A text is read as a value from its beginning, with as much fuel as it is long, up to
a character that does not continue a number. -/
structure ReadAs (depth : Nat) (json : Json) (text : List Char) : Prop where
  eq_some : ∀ {fuel left : Nat} {rest : List Char}, text.length ≤ fuel → depth ≤ left →
    EndsNumber rest → readValue? fuel left (text ++ rest) = some (json, rest)

theorem skipSpace_closing (blank : ∀ character ∈ space, IsSpace character)
    (visible : ¬ IsSpace character) :
    skipSpace (space ++ character :: rest) = character :: rest :=
  (skipSpace_append blank).trans (skipSpace_cons visible)

/-- The items of an array are read up to its closing bracket. -/
theorem readItems?_eq_some {pieces : List (Json × List Char)} (nonempty : pieces ≠ [])
    (read : ∀ piece ∈ pieces, ReadAs depth piece.1 piece.2)
    (blank : ∀ character ∈ space, IsSpace character) (deep : depth ≤ left) (done : List Json)
    (enough : ([','].intercalate (pieces.map Prod.snd)).length < fuel) :
    readItems? fuel left done
        ([','].intercalate (pieces.map Prod.snd) ++ (space ++ ']' :: rest)) =
      some (done.reverse ++ pieces.map Prod.fst, rest) := by
  induction pieces generalizing fuel done with
  | nil => exact absurd rfl nonempty
  | cons piece others ih =>
      obtain ⟨fuel, rfl⟩ := Nat.exists_eq_add_one.mpr (Nat.zero_lt_of_lt enough)
      rw [List.forall_mem_cons] at read
      obtain ⟨readFirst, readOthers⟩ := read
      cases others with
      | nil =>
          simp only [List.map_cons, List.map_nil, List.intercalate_singleton] at enough ⊢
          have ends : EndsNumber (space ++ ']' :: rest) := .append blank (.cons rfl (by decide))
          have closing : skipSpace (space ++ ']' :: rest) = ']' :: rest :=
            skipSpace_closing blank (by decide)
          rw [readItems?, readFirst.eq_some (Nat.le_of_lt_succ enough) deep ends]
          simp [closing]
      | cons second others =>
          simp only [List.map_cons, List.intercalate_cons_cons, List.length_append,
            List.length_cons, List.append_assoc, List.cons_append, List.nil_append]
            at enough ih ⊢
          have behind := ih (List.cons_ne_nil _ _) readOthers (piece.1 :: done)
            (show _ < fuel by omega)
          rw [readItems?, readFirst.eq_some (by omega) deep (.comma _)]
          simp [skipSpace_comma, behind]

theorem toList_stringText (value : String) :
    (stringText value).toList = '"' :: (value.toList.flatMap escapeChar ++ ['"']) := by
  rw [stringText, String.toList_ofList, List.cons_append]

/-- The name and the value of a member are read one after the other. -/
theorem readMembers?_succ {piece : MemberText} (read : ReadAs depth piece.value piece.text)
    (blank : ∀ character ∈ piece.space, IsSpace character) (deep : depth ≤ left)
    (enough : piece.characters.length ≤ fuel) (ends : EndsNumber rest)
    (done : List (String × Json)) :
    readMembers? (fuel + 1) left done (piece.characters ++ rest) =
      match skipSpace rest with
      | ',' :: rest => readMembers? fuel left (piece.member :: done) rest
      | '\x7d' :: rest => some ((piece.member :: done).reverse, rest)
      | _ => none := by
  have long := length_le_length_flatMap piece.name.toList
  simp only [MemberText.characters, toList_stringText, List.length_append, List.length_cons,
    List.length_nil] at enough
  have quote : ∀ rest, skipSpace (piece.space ++ '"' :: rest) = '"' :: rest := fun _ =>
    skipSpace_closing blank (by decide)
  have name : ∀ rest, readString? fuel [] (piece.name.toList.flatMap escapeChar ++ '"' :: rest) =
      some (piece.name, rest) := by
    intro rest
    rw [readString?_flatMap _ (by omega), List.reverse_nil, List.nil_append, String.ofList_toList]
  have colon : ∀ rest, skipSpace (':' :: rest) = ':' :: rest := fun _ => skipSpace_cons (by decide)
  have value := read.eq_some (show piece.text.length ≤ fuel by omega) deep ends
  simp only [MemberText.characters, toList_stringText, List.append_assoc, List.cons_append,
    List.nil_append]
  simp only [readMembers?, quote, name, colon, value]
  rfl

/-- The members of an object are read up to its closing bracket. -/
theorem readMembers?_eq_some {pieces : List MemberText} (nonempty : pieces ≠ [])
    (read : ∀ piece ∈ pieces, ReadAs depth piece.value piece.text)
    (blanks : ∀ piece ∈ pieces, ∀ character ∈ piece.space, IsSpace character)
    (blank : ∀ character ∈ space, IsSpace character) (deep : depth ≤ left)
    (done : List (String × Json))
    (enough : ([','].intercalate (pieces.map MemberText.characters)).length < fuel) :
    readMembers? fuel left done
        ([','].intercalate (pieces.map MemberText.characters) ++ (space ++ '\x7d' :: rest)) =
      some (done.reverse ++ pieces.map MemberText.member, rest) := by
  induction pieces generalizing fuel done with
  | nil => exact absurd rfl nonempty
  | cons piece others ih =>
      obtain ⟨fuel, rfl⟩ := Nat.exists_eq_add_one.mpr (Nat.zero_lt_of_lt enough)
      rw [List.forall_mem_cons] at read blanks
      obtain ⟨readFirst, readOthers⟩ := read
      obtain ⟨blankFirst, blankOthers⟩ := blanks
      cases others with
      | nil =>
          simp only [List.map_cons, List.map_nil, List.intercalate_singleton] at enough ⊢
          have ends : EndsNumber (space ++ '\x7d' :: rest) := .append blank (.cons rfl (by decide))
          have closing : skipSpace (space ++ '\x7d' :: rest) = '\x7d' :: rest :=
            skipSpace_closing blank (by decide)
          rw [readMembers?_succ readFirst blankFirst deep (Nat.le_of_lt_succ enough) ends]
          simp [closing]
      | cons second others =>
          simp only [List.map_cons, List.intercalate_cons_cons, List.length_append,
            List.length_cons, List.append_assoc, List.cons_append, List.nil_append]
            at enough ih ⊢
          have behind := ih (List.cons_ne_nil _ _) readOthers blankOthers (piece.member :: done)
            (show _ < fuel by omega)
          rw [readMembers?_succ readFirst blankFirst deep (by omega) (.comma _)]
          simp [skipSpace_comma, behind]

theorem readValue?_skipSpace (text : List Char) :
    readValue? fuel left (skipSpace text) = readValue? fuel left text := by
  cases fuel with
  | zero => rw [readValue?, readValue?]
  | succ fuel => rw [readValue?, readValue?, skipSpace_skipSpace]

theorem readItems?_skipSpace (done : List Json) (text : List Char) :
    readItems? fuel left done (skipSpace text) = readItems? fuel left done text := by
  cases fuel with
  | zero => rw [readItems?, readItems?]
  | succ fuel => rw [readItems?, readItems?, readValue?_skipSpace]

theorem readMembers?_skipSpace (done : List (String × Json)) (text : List Char) :
    readMembers? fuel left done (skipSpace text) = readMembers? fuel left done text := by
  cases fuel with
  | zero => rw [readMembers?, readMembers?]
  | succ fuel => rw [readMembers?, readMembers?, skipSpace_skipSpace]

/-- No item begins with a closing bracket. -/
theorem readItems?_closing (done : List Json) :
    readItems? fuel left done (']' :: rest) = none := by
  cases fuel with
  | zero => rw [readItems?]
  | succ fuel =>
      cases fuel with
      | zero => rfl
      | succ fuel => rfl

theorem readMembers?_closing (done : List (String × Json)) :
    readMembers? fuel left done ('\x7d' :: rest) = none := by
  cases fuel <;> rfl

theorem readValue?_array {items : List Json}
    (read : readItems? fuel left [] text = some (items, rest)) :
    readValue? (fuel + 1) (left + 1) ('[' :: text) = some (.array items, rest) := by
  rw [← readItems?_skipSpace] at read
  have opening : skipSpace ('[' :: text) = '[' :: text := skipSpace_cons (by decide)
  simp only [readValue?, opening]
  split
  · next closing =>
    rw [closing, readItems?_closing] at read
    cases read
  · rw [read]
    rfl

theorem readValue?_object {members : List (String × Json)}
    (read : readMembers? fuel left [] text = some (members, rest)) :
    readValue? (fuel + 1) (left + 1) ('\x7b' :: text) = some (.object members, rest) := by
  rw [← readMembers?_skipSpace] at read
  have opening : skipSpace ('\x7b' :: text) = '\x7b' :: text := skipSpace_cons (by decide)
  simp only [readValue?, opening]
  split
  · next closing =>
    rw [closing, readMembers?_closing] at read
    cases read
  · rw [read]
    rfl

/-- A text that is not empty needs some fuel. -/
theorem ReadAs.of_succ {json : Json} (nonempty : 0 < text.length)
    (read : ∀ {fuel left rest}, text.length ≤ fuel + 1 → depth ≤ left → EndsNumber rest →
      readValue? (fuel + 1) left (text ++ rest) = some (json, rest)) : ReadAs depth json text := by
  refine ⟨fun {fuel left rest} enough => ?_⟩
  obtain ⟨fuel, rfl⟩ := Nat.exists_eq_add_one.mpr (Nat.lt_of_lt_of_le nonempty enough)
  exact read enough

/-- A text that spells a value is read as the value. -/
theorem Spells.readAs {json : Json} {text : List Char} (spells : Spells depth json text) :
    ReadAs depth json text := by
  -- The reader spends one unit of fuel on each value, item and member, and each of them has
  -- at least one character, so that the length of the text is enough in every case.
  induction spells with
  | null => exact .of_succ (by decide) fun _ _ _ => rfl
  | true => exact .of_succ (by decide) fun _ _ _ => rfl
  | false => exact .of_succ (by decide) fun _ _ _ => rfl
  | @int _ value lower upper =>
      have nonempty : 0 < (toString value).toList.length := by
        rw [Int.toString_eq_repr, Int.repr_eq_if]
        split
        · rw [Nat.toList_repr]
          exact Nat.length_toDigits_pos
        · rw [String.toList_append]
          exact Nat.zero_lt_succ _
      exact .of_succ nonempty fun _ _ ends => readValue?_int lower upper ends
  | string value =>
      rw [toList_stringText]
      refine .of_succ (Nat.zero_lt_succ _) fun {fuel left rest} enough _ _ => ?_
      have long := length_le_length_flatMap value.toList
      simp only [List.length_cons, List.length_append, List.length_nil] at enough
      have read : readString? fuel [] (value.toList.flatMap escapeChar ++ '"' :: rest) =
          some (String.ofList value.toList, rest) := readString?_flatMap _ (by omega)
      have quote : ∀ rest, skipSpace ('"' :: rest) = '"' :: rest := fun _ =>
        skipSpace_cons (by decide)
      simp [readValue?, quote, read]
  | @space _ _ text character isSpace _ ih =>
      refine ⟨fun {fuel left rest} enough deep ends => ?_⟩
      have skipped : skipSpace (character :: text ++ rest) = skipSpace (text ++ rest) :=
        if_pos isSpace
      rw [← readValue?_skipSpace, skipped, readValue?_skipSpace]
      exact ih.eq_some (Nat.le_of_succ_le enough) deep ends
  | emptyArray =>
      refine .of_succ (by decide) fun {fuel left rest} _ deep _ => ?_
      obtain ⟨left, rfl⟩ := Nat.exists_eq_add_of_le' (Nat.le_of_add_left_le deep)
      rfl
  | array nonempty _ blank ih =>
      refine .of_succ (Nat.zero_lt_succ _) fun {fuel left rest} enough deep ends => ?_
      obtain ⟨left, rfl⟩ := Nat.exists_eq_add_of_le' (Nat.le_of_add_left_le deep)
      simp only [bracket, List.length_cons, List.length_append, List.length_nil] at enough
      simp only [bracket, List.cons_append, List.append_assoc, List.nil_append]
      exact readValue?_array
        (readItems?_eq_some nonempty ih blank (Nat.le_of_succ_le_succ deep) [] (by omega))
  | emptyObject =>
      refine .of_succ (by decide) fun {fuel left rest} _ deep _ => ?_
      obtain ⟨left, rfl⟩ := Nat.exists_eq_add_of_le' (Nat.le_of_add_left_le deep)
      rfl
  | object nonempty _ blanks blank ih =>
      refine .of_succ (Nat.zero_lt_succ _) fun {fuel left rest} enough deep ends => ?_
      obtain ⟨left, rfl⟩ := Nat.exists_eq_add_of_le' (Nat.le_of_add_left_le deep)
      simp only [bracket, List.length_cons, List.length_append, List.length_nil] at enough
      simp only [bracket, List.cons_append, List.append_assoc, List.nil_append]
      exact readValue?_object
        (readMembers?_eq_some nonempty ih blanks blank (Nat.le_of_succ_le_succ deep) [] (by omega))

/-- A text that spells a value is JSON that denotes the value. -/
theorem Spells.read?_eq_some {json : Json} {text : String} (spells : Spells depth json text.toList)
    (deep : depth ≤ nestingLimit) : read? text = some json := by
  have ends : EndsNumber [] := nofun
  have read := spells.readAs.eq_some (show _ ≤ 2 * text.toList.length + 2 by omega) deep ends
  rw [List.append_nil] at read
  rw [read?, read]
  rfl

end TaskBoard.Json
