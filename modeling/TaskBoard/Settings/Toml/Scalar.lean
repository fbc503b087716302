import TaskBoard.Number.Decimal
import TaskBoard.Settings.Source
import TaskBoard.Text.Numeral

/-!
# Words in TOML

A word is a truth value, a number, or a date or time of day.  Whole numbers have
sixty-four bits; other numbers may not exceed the double range.  A date with a
time is one word, even where a blank stands between the two.
-/

namespace TaskBoard.Settings.Toml

/-! ## Numbers -/

/-- Whether digits of a base are separated by single underscores at most. -/
def isDigits (isDigit : Char → Bool) : List Char → Bool
  | [] => false
  | [digit] => isDigit digit
  | digit :: '_' :: rest => isDigit digit && isDigits isDigit rest
  | digit :: rest => isDigit digit && isDigits isDigit rest

/-- Digits without their underscores. -/
def withoutUnderscores (digits : List Char) : List Char := digits.filter fun digit => digit != '_'

/-- The number that digits of a base denote, up to a limit. -/
def readDigits? (base : Nat) (limit : Nat) (digits : List Char) : Option Nat :=
  if isDigits (fun digit => (Text.digitBelow? base digit).isSome) digits then
    (Text.readDigits base limit 0 (withoutUnderscores digits)).toOption
  else none

/-- Whether decimal digits have no zero before another digit. -/
def isLeading (digits : List Char) : Bool :=
  isDigits Char.isDigit digits && (digits.head? != some '0' || digits.length == 1)

/-- The value of decimal digits, which may hold underscores. -/
def digitsValue (digits : List Char) : Nat :=
  (withoutUnderscores digits).foldl (fun value digit => value * 10 + (digit.toNat - 48)) 0

/-- A number with a fraction or an exponent, without its sign. -/
def readDecimal? (text : List Char) : Option Double.Decimal :=
  let isMark (character : Char) := character == 'e' || character == 'E'
  let mantissa := text.takeWhile fun character => !isMark character
  let exponent := text.drop mantissa.length
  let whole := mantissa.takeWhile fun character => character != '.'
  let fraction := mantissa.drop whole.length
  let (sign, power) : Int × List Char :=
    match exponent.drop 1 with
    | '+' :: rest => (1, rest)
    | '-' :: rest => (-1, rest)
    | other => (1, other)
  let places := fraction.drop 1
  if isLeading whole && !(fraction.isEmpty && exponent.isEmpty) &&
      (fraction.isEmpty || isDigits Char.isDigit places) &&
      (exponent.isEmpty || isDigits Char.isDigit power) then
    some ⟨digitsValue (whole ++ places),
      sign * digitsValue power - ((withoutUnderscores places).length : Int)⟩
  else none

/-- A number behind its sign; only one below zero may exceed the double range. -/
def readSigned? (negative : Bool) (digits : List Char) : Option Source :=
  if isLeading digits then
    let limit := if negative then 9223372036854775808 else 9223372036854775807
    (readDigits? 10 limit digits).map fun value =>
      .number (if negative then -(value : Int) else value)
  else if digits == ['i', 'n', 'f'] || digits == ['n', 'a', 'n'] then some .other
  else
    match readDecimal? digits with
    | none => none
    | some decimal => if decimal.nearest?.isSome || negative then some .other else none

/-- A number. -/
def readNumber? (word : List Char) : Option Source :=
  let ofBase (base : Nat) (digits : List Char) : Option Source :=
    (readDigits? base 9223372036854775807 digits).map fun value => .number value
  match word with
  | '+' :: digits => readSigned? false digits
  | '-' :: digits => readSigned? true digits
  | '0' :: 'x' :: digits => ofBase 16 digits
  | '0' :: 'o' :: digits => ofBase 8 digits
  | '0' :: 'b' :: digits => ofBase 2 digits
  | _ => readSigned? false word

/-! ## Dates and times -/

/-- A number of two digits within bounds, and the text after it. -/
def readPair? (least greatest : Nat) : List Char → Option (Nat × List Char)
  | tens :: ones :: rest =>
      if tens.isDigit && ones.isDigit then
        let value := digitsValue [tens, ones]
        if least ≤ value ∧ value ≤ greatest then some (value, rest) else none
      else none
  | _ => none

/-- The text after a character, if it begins with it. -/
def after? (character : Char) : List Char → Option (List Char)
  | first :: rest => if first = character then some rest else none
  | [] => none

/-- The number of days of a month. -/
def daysOf (year month : Nat) : Nat :=
  if month = 2 then
    if year % 4 = 0 ∧ (year % 100 ≠ 0 ∨ year % 400 = 0) then 29 else 28
  else if month = 4 ∨ month = 6 ∨ month = 9 ∨ month = 11 then 30
  else 31

/-- The text after a date, if it begins with one. -/
def afterDate? (text : List Char) : Option (List Char) := do
  let year := text.take 4
  if year.length = 4 ∧ year.all Char.isDigit then
    let (month, rest) ← after? '-' (text.drop 4) >>= readPair? 1 12
    let (_, rest) ← after? '-' rest >>= readPair? 1 (daysOf (digitsValue year) month)
    return rest
  else none

/-- The text after a time of day, if it begins with one. -/
def afterTime? (text : List Char) : Option (List Char) := do
  let (_, rest) ← readPair? 0 23 text
  let (_, rest) ← after? ':' rest >>= readPair? 0 59
  let (_, rest) ← after? ':' rest >>= readPair? 0 60
  match rest with
  | '.' :: digits =>
      match digits.dropWhile Char.isDigit with
      | after => if after.length < digits.length then some after else none
  | rest => some rest

/-- The text after a distance from universal time, or the text itself. -/
def afterOffset? : List Char → Option (List Char)
  | 'Z' :: rest => some rest
  | 'z' :: rest => some rest
  | '+' :: rest => do
      let (_, rest) ← readPair? 0 23 rest
      let (_, rest) ← after? ':' rest >>= readPair? 0 59
      return rest
  | '-' :: rest => do
      let (_, rest) ← readPair? 0 23 rest
      let (_, rest) ← after? ':' rest >>= readPair? 0 59
      return rest
  | rest => some rest

/-- The text after a time of day and its distance from universal time. -/
def afterClock? (text : List Char) : Option (List Char) := afterTime? text >>= afterOffset?

/-- The text after a date, a time of day or both, if it begins with one. -/
def afterMoment? (text : List Char) : Option (List Char) :=
  match afterDate? text with
  | none => afterTime? text
  | some [] => some []
  | some (mark :: rest) =>
      if mark = 'T' ∨ mark = 't' then afterClock? rest
      else if mark = ' ' then some ((afterClock? rest).getD (mark :: rest))
      else some (mark :: rest)

/-! ## Words -/

/-- A character of a word. -/
def isWordChar (character : Char) : Bool :=
  character.isAlphanum || ['+', '-', '_', '.', ':'].contains character

/-- A word, and the text after it.  A date or time is a table of its own, which
holds no settings. -/
def readWord? (text : List Char) : Option (Source × List Char) :=
  let word := text.takeWhile isWordChar
  let rest := text.drop word.length
  if word == ['t', 'r', 'u', 'e'] || word == ['f', 'a', 'l', 's', 'e'] then some (.other, rest)
  else
    match readNumber? word with
    | some number => some (number, rest)
    | none => (afterMoment? text).map fun rest => (Source.nothing, rest)

end TaskBoard.Settings.Toml
