import TaskBoard.Proofs.Text.Numerals
import TaskBoard.Proofs.Time.Calendar
import TaskBoard.Time.Rfc3339

/-!
# The text of a moment is read back

`read_write` says that the text of every moment, in whatever year of the calendar,
with however many digits behind the point and in a leap second too, denotes the
moment.  Each part of the text is read up to the character that follows it.
-/

namespace TaskBoard.Rfc3339

open Text (dropBlank isBlank)

/-! ## Digits -/

/-- Decimal digits that denote a number. -/
structure Denotes (digits : List Char) (number : Nat) : Prop where
  nonempty : digits ≠ []
  isDigit : ∀ character ∈ digits, character.isDigit = true
  value : digitsValue digits = number

variable {digits rest : List Char} {number width : Nat}

theorem toList_padded (width number : Nat) : (padded width number).toList =
    List.replicate (width - (Nat.toDigits 10 number).length) '0' ++ Nat.toDigits 10 number := by
  rw [padded, String.toList_ofList]

theorem denotes_padded (width number : Nat) : Denotes (padded width number).toList number where
  nonempty := by
    rw [toList_padded]
    exact List.append_ne_nil_of_right_ne_nil _ Nat.toDigits_ne_nil
  isDigit := by
    rw [toList_padded]
    intro character member
    rcases List.mem_append.mp member with zero | digit
    · rw [List.eq_of_mem_replicate zero]
      rfl
    · exact Nat.isDigit_of_mem_toDigits (by decide) (by decide) digit
  value := by
    have zeros : ∀ count, Nat.ofDigitChars 10 (List.replicate count '0') 0 = 0 := by
      intro count
      induction count with
      | zero => rfl
      | succ count ih => exact ih
    rw [toList_padded, digitsValue, Text.foldl_eq_ofDigitChars, Nat.ofDigitChars_append, zeros,
      Nat.ofDigitChars_toDigits (by decide) (by decide)]

/-- A number that is not too great fills the width. -/
theorem length_padded {width number : Nat} (positive : 0 < width) (fits : number < 10 ^ width) :
    (padded width number).toList.length = width := by
  have short := (Nat.length_toDigits_le_iff (by decide) positive).mpr fits
  rw [toList_padded, List.length_append, List.length_replicate]
  exact Nat.sub_add_cancel short

/-! ## Parts of the text -/

theorem isBlank_of_isDigit {character : Char} (isDigit : character.isDigit = true) :
    isBlank character = false := by
  have bounds : 48 ≤ character.toNat ∧ character.toNat ≤ 57 := by
    simpa [Char.isDigit, UInt32.le_iff_toNat_le] using isDigit
  simp only [isBlank, Bool.or_eq_false_iff, Bool.and_eq_false_iff, decide_eq_false_iff_not,
    beq_eq_false_iff_ne]
  omega

theorem dropBlank_cons {character : Char} (visible : isBlank character = false) :
    dropBlank (character :: rest) = character :: rest :=
  List.dropWhile_cons_of_neg (Bool.not_eq_true _ ▸ visible)

namespace Denotes

variable (denotes : Denotes digits number)
include denotes

/-- Digits begin with a digit. -/
theorem exists_cons : ∃ first others, digits = first :: others ∧ first.isDigit = true := by
  obtain ⟨first, others, rfl⟩ := List.exists_cons_of_ne_nil denotes.nonempty
  exact ⟨first, others, rfl, denotes.isDigit first List.mem_cons_self⟩

theorem dropBlank_append : dropBlank (digits ++ rest) = digits ++ rest := by
  obtain ⟨first, others, rfl, isDigit⟩ := denotes.exists_cons
  exact dropBlank_cons (isBlank_of_isDigit isDigit)

/-- Digits are read as their number, up to the width or to another character. -/
theorem readNumber_append (fits : digits.length ≤ width)
    (ends : digits.length = width ∨ ∀ character ∈ rest.head?, character.isDigit = false) :
    readNumber width (digits ++ rest) = .ok (number, rest) := by
  have ended : (rest.take (width - digits.length)).takeWhile Char.isDigit = [] := by
    rcases ends with full | other
    · rw [full, Nat.sub_self, List.take_zero, List.takeWhile_nil]
    · cases rest with
      | nil => rw [List.take_nil, List.takeWhile_nil]
      | cons character rest =>
          cases width - digits.length with
          | zero => rfl
          | succ count => simp [other character rfl]
  have taken : ((digits ++ rest).take width).takeWhile Char.isDigit = digits := by
    rw [List.take_append, List.take_of_length_le fits,
      List.takeWhile_append_of_pos denotes.isDigit, ended, List.append_nil]
  have some : (digits ++ rest).isEmpty = false := by simp [denotes.nonempty]
  have digitsSome : digits.isEmpty = false := by simp [denotes.nonempty]
  simp [readNumber, taken, some, digitsSome, denotes.value]

end Denotes

theorem readPart_padded {least greatest : Nat} (fromLeast : least ≤ number)
    (toGreatest : number ≤ greatest) (fits : number < 10 ^ 2) :
    readPart least greatest ((padded 2 number).toList ++ rest) = .ok (number, rest) := by
  have denotes := denotes_padded 2 number
  have full := length_padded (by decide) fits
  rw [readPart, denotes.dropBlank_append, denotes.readNumber_append (Nat.le_of_eq full) (.inl full)]
  exact if_pos ⟨fromLeast, toGreatest⟩

theorem skipMark_cons {mark : Char} (visible : isBlank mark = false) :
    skipMark mark (mark :: rest) = .ok rest := by
  rw [skipMark, dropBlank_cons visible]
  exact if_pos rfl

/-- A year without sign has four digits at most. -/
theorem readYear_unsigned {text : List Char} {first : Char}
    (head : text.head? = some first) (isDigit : first.isDigit = true)
    (read : readNumber 4 text = .ok (number, rest)) (fits : number ≤ 2147483647) :
    readYear text = .ok (number, rest) := by
  obtain ⟨others, rfl⟩ := List.head?_eq_some_iff.mp head
  rw [readYear, dropBlank_cons (isBlank_of_isDigit isDigit)]
  split
  · next minus =>
    rw [(List.cons.inj minus).1] at isDigit
    cases isDigit
  · next plus =>
    rw [(List.cons.inj plus).1] at isDigit
    cases isDigit
  · rw [read]
    exact (if_pos (by omega)).trans (by rw [Int.one_mul])

theorem readYear_minus {text : List Char}
    (read : readNumber text.length text = .ok (number, rest)) (fits : number ≤ 2147483648) :
    readYear ('-' :: text) = .ok (-number, rest) := by
  rw [readYear, dropBlank_cons (by decide)]
  change (readNumber text.length text >>= _) = _
  rw [read]
  exact (if_pos (by omega)).trans (by rw [Int.neg_one_mul])

theorem readYear_plus {text : List Char}
    (read : readNumber text.length text = .ok (number, rest)) (fits : number ≤ 2147483647) :
    readYear ('+' :: text) = .ok (number, rest) := by
  rw [readYear, dropBlank_cons (by decide)]
  change (readNumber text.length text >>= _) = _
  rw [read]
  exact (if_pos (by omega)).trans (by rw [Int.one_mul])

/-- A year is read up to the mark behind it. -/
theorem readYear_yearText {year : Int} (lower : -2147483648 ≤ year) (upper : year ≤ 2147483647)
    (rest : List Char) :
    readYear ((yearText year).toList ++ '-' :: rest) = .ok (year, '-' :: rest) := by
  have mark : ∀ character ∈ ('-' :: rest).head?, character.isDigit = false := by
    rintro character ⟨⟩
    rfl
  rw [yearText]
  split
  · next short =>
    have denotes := denotes_padded 4 year.toNat
    have full := length_padded (by decide) (show year.toNat < 10 ^ 4 by omega)
    have number := denotes.readNumber_append (Nat.le_of_eq full) (.inr mark)
    obtain ⟨first, others, spelled, isDigit⟩ := denotes.exists_cons
    have head : ((padded 4 year.toNat).toList ++ '-' :: rest).head? = some first := by
      rw [spelled]
      rfl
    rw [readYear_unsigned head isDigit number (by omega), Int.toNat_of_nonneg short.1]
  · have denotes := denotes_padded 4 year.natAbs
    have whole : (padded 4 year.natAbs).toList.length ≤
        ((padded 4 year.natAbs).toList ++ '-' :: rest).length := by
      rw [List.length_append]
      exact Nat.le_add_right _ _
    have number := denotes.readNumber_append whole (.inr mark)
    split
    · next negative =>
      rw [String.toList_append]
      exact (readYear_minus number (by omega)).trans
        (by rw [Int.ofNat_natAbs_of_nonpos (Int.le_of_lt negative), Int.neg_neg])
    · next nonnegative =>
      rw [String.toList_append]
      exact (readYear_plus number (by omega)).trans
        (by rw [Int.natAbs_of_nonneg (Int.not_lt.mp nonnegative)])

/-- A point and digits are nanoseconds, of which the digits are the greatest part. -/
theorem readFraction_padded (some : 0 < width) (few : width ≤ 9)
    (fits : number < 10 ^ width) :
    readFraction ('.' :: ((padded width number).toList ++ ['Z'])) =
      .ok (number * 10 ^ (9 - width), ['Z']) := by
  have denotes := denotes_padded width number
  have full := length_padded some fits
  have mark : ∀ character ∈ ['Z'].head?, character.isDigit = false := by
    rintro character ⟨⟩
    rfl
  have read := denotes.readNumber_append (Nat.le_trans (Nat.le_of_eq full) few) (.inr mark)
  -- The reader takes the number of digits from how much of the text it has used.
  have length : ((padded width number).toList ++ ['Z']).length - ['Z'].length = width := by
    rw [List.length_append, Nat.add_sub_cancel, full]
  rw [readFraction, read]
  simp only [length]
  rfl

/-- The fraction of a second is read up to the `Z` behind it. -/
theorem readFraction_fractionText {nanos : Nat} (bound : nanos < 1000000000) :
    readFraction ((fractionText nanos).toList ++ ['Z']) = .ok (nanos, ['Z']) := by
  rw [fractionText]
  split
  · next none =>
    rw [none]
    rfl
  · split
    · rw [String.toList_append]
      refine (readFraction_padded (by decide) (by decide) (by omega)).trans ?_
      simp only [Except.ok.injEq, Prod.mk.injEq, and_true]
      omega
    · split
      · rw [String.toList_append]
        refine (readFraction_padded (by decide) (by decide) (by omega)).trans ?_
        simp only [Except.ok.injEq, Prod.mk.injEq, and_true]
        omega
      · rw [String.toList_append]
        refine (readFraction_padded (by decide) (by decide) (by omega)).trans ?_
        simp only [Except.ok.injEq, Prod.mk.injEq, and_true]
        omega

/-! ## The whole text -/

/-- The parts that the text of a moment is made of. -/
def partsOf (moment : Moment) : Parts where
  date := Date.ofDays (moment.seconds / 86400)
  hour := (moment.seconds % 86400).toNat / 3600
  minute := (moment.seconds % 86400).toNat / 60 % 60
  second := (moment.seconds % 86400).toNat % 60 + moment.nanos / 1000000000
  nanos := moment.nanos % 1000000000
  offset := 0

/-- The characters of the text of some parts. -/
def Parts.text (parts : Parts) : List Char :=
  (yearText parts.date.year).toList ++ '-' :: ((padded 2 parts.date.month).toList ++
    '-' :: ((padded 2 parts.date.day).toList ++ 'T' :: ((padded 2 parts.hour).toList ++
      ':' :: ((padded 2 parts.minute).toList ++ ':' :: ((padded 2 parts.second).toList ++
        ((fractionText parts.nanos).toList ++ ['Z']))))))

/-- Parts that lie within their ranges and are given in UTC. -/
structure Parts.Legible (parts : Parts) : Prop where
  date : parts.date.Exists
  hour : parts.hour ≤ 23
  minute : parts.minute ≤ 59
  second : parts.second ≤ 60
  nanos : parts.nanos < 1000000000
  offset : parts.offset = 0

/-- The text of legible parts is read as these parts. -/
theorem readParts_text {parts : Parts} (legible : parts.Legible) :
    readParts parts.text = .ok parts := by
  obtain ⟨firstYear, lastYear, firstMonth, lastMonth, firstDay, lastDay⟩ := legible.date
  have monthDays : Date.daysInMonth parts.date.year parts.date.month ≤ 31 := by
    rw [Date.daysInMonth]
    split <;> split <;> decide
  have year := readYear_yearText (Int.le_trans (by decide) firstYear)
    (Int.le_trans lastYear (by decide))
  have month : ∀ rest, readPart 1 12 ((padded 2 parts.date.month).toList ++ rest) =
      .ok (parts.date.month, rest) := fun _ =>
    readPart_padded firstMonth lastMonth (by omega)
  have day : ∀ rest, readPart 1 31 ((padded 2 parts.date.day).toList ++ rest) =
      .ok (parts.date.day, rest) := fun _ =>
    readPart_padded firstDay (Nat.le_trans lastDay monthDays) (by omega)
  have hour : ∀ rest, readPart 0 23 ((padded 2 parts.hour).toList ++ rest) =
      .ok (parts.hour, rest) := fun _ =>
    have upper := legible.hour
    readPart_padded (Nat.zero_le _) upper (by omega)
  have minute : ∀ rest, readPart 0 59 ((padded 2 parts.minute).toList ++ rest) =
      .ok (parts.minute, rest) := fun _ =>
    have upper := legible.minute
    readPart_padded (Nat.zero_le _) upper (by omega)
  have second : ∀ rest, readPart 0 60 ((padded 2 parts.second).toList ++ rest) =
      .ok (parts.second, rest) := fun _ =>
    have upper := legible.second
    readPart_padded (Nat.zero_le _) upper (by omega)
  have hyphen : ∀ rest, skipMark '-' ('-' :: rest) = .ok rest := fun _ => skipMark_cons (by decide)
  have colon : ∀ rest, skipMark ':' (':' :: rest) = .ok rest := fun _ => skipMark_cons (by decide)
  have divider : ∀ rest, skipDivider ('T' :: rest) = .ok rest := fun _ => rfl
  have fraction := readFraction_fractionText legible.nanos
  have offset : readOffset (dropBlank ['Z']) = .ok (0, []) := by decide
  have utc := legible.offset
  simp only [readParts, Parts.text, bind, Except.bind, year, month, day, hour, minute, second,
    hyphen, colon, divider, fraction, offset]
  rw [← utc]
  rfl

theorem toList_write (moment : Moment) : (write moment).toList = (partsOf moment).text := by
  have bound := moment.nanos_bound
  rw [write]
  split
  next extra nanos split =>
  have parts : extra = moment.nanos / 1000000000 ∧ nanos = moment.nanos % 1000000000 := by
    split at split <;> cases split <;> omega
  simp [Parts.text, partsOf, parts]

theorem legible_partsOf (moment : Moment) : (partsOf moment).Legible where
  date := by
    have first := moment.after_first
    have last := moment.before_last
    exact Date.exists_ofDays (by omega) (by omega)
  hour := by
    simp only [partsOf]
    omega
  minute := by
    simp only [partsOf]
    omega
  second := by
    have bound := moment.nanos_bound
    simp only [partsOf]
    omega
  nanos := Nat.mod_lt _ (by decide)
  offset := rfl

/-- The parts of a moment denote it; only in a leap second there are sixty seconds. -/
theorem toMoment_partsOf (moment : Moment) : (partsOf moment).toMoment = .ok moment := by
  have bound := moment.nanos_bound
  have inUtc : (partsOf moment).date.Exists ∧ (partsOf moment).offset.natAbs < 86400 :=
    ⟨(legible_partsOf moment).date, Nat.zero_lt_succ _⟩
  have days : (partsOf moment).date.toDays = moment.seconds / 86400 := Date.toDays_ofDays _
  rw [Parts.toMoment, if_pos inUtc, days]
  split
  next second nanos chosen =>
  have parts : second = (moment.seconds % 86400).toNat % 60 ∧ nanos = moment.nanos := by
    by_cases leap : (partsOf moment).second = 60
    · rw [if_pos leap] at chosen
      simp only [partsOf] at leap chosen
      cases chosen
      omega
    · rw [if_neg leap] at chosen
      simp only [partsOf] at leap chosen
      cases chosen
      omega
  have place : moment.seconds / 86400 * 86400 + (((partsOf moment).hour * 3600 +
      (partsOf moment).minute * 60 + second : Nat) : Int) - (partsOf moment).offset =
        moment.seconds := by
    simp only [partsOf, parts]
    omega
  simp only [place, parts.2, Moment.of?_self]

/-- The text of a moment denotes the moment. -/
theorem read_write (moment : Moment) : read (write moment) = .ok moment := by
  rw [read, toList_write, readParts_text (legible_partsOf moment)]
  exact toMoment_partsOf moment

end TaskBoard.Rfc3339
