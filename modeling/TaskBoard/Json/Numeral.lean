import TaskBoard.Json.Value
import TaskBoard.Number.Decimal

/-!
# Numbers in JSON text

A number without fraction and exponent that has sixty-four bits is kept exactly.
Any other number is kept in double precision: of its digits those count that
make up a whole number of sixty-four bits, and the power of ten is applied to
that number with one more rounding.
-/

namespace TaskBoard.Json

/-- A number as it is written, without its sign. -/
structure Numeral where
  whole : List Char
  fraction : List Char
  exponent : Option Int
  deriving DecidableEq, Repr

/-- The value of decimal digits. -/
def decimalValue (digits : List Char) : Nat :=
  digits.foldl (fun value digit => value * 10 + (digit.toNat - 48)) 0

/-- The exponent after an `e`, and the text after it. -/
def readExponent? (text : List Char) : Option (Int × List Char) :=
  let (sign, text) : Int × List Char :=
    match text with
    | '+' :: rest => (1, rest)
    | '-' :: rest => (-1, rest)
    | other => (1, other)
  let digits := text.takeWhile Char.isDigit
  if digits.isEmpty then none
  else some (sign * decimalValue digits, text.dropWhile Char.isDigit)

/-- A number as it is written without its sign, and the text after it. -/
def readNumeral? (text : List Char) : Option (Numeral × List Char) := do
  let whole := text.takeWhile Char.isDigit
  let rest := text.dropWhile Char.isDigit
  if whole.isEmpty ∨ (whole.head? = some '0' ∧ 1 < whole.length) then none
  else
    let (fraction, rest) ← match rest with
      | '.' :: rest =>
          let digits := rest.takeWhile Char.isDigit
          if digits.isEmpty then none else some (digits, rest.dropWhile Char.isDigit)
      | _ => some ([], rest)
    match rest with
      | 'e' :: rest =>
          (readExponent? rest).map fun (value, after) => (⟨whole, fraction, some value⟩, after)
      | 'E' :: rest =>
          (readExponent? rest).map fun (value, after) => (⟨whole, fraction, some value⟩, after)
      | _ => some (⟨whole, fraction, none⟩, rest)

/-- The greatest whole number of sixty-four bits. -/
def greatestWhole : Nat := 18446744073709551615

/-- Take in digits before the point; from the first one on that does not fit,
they only raise the power of ten. -/
def takeWhole (kept : Nat) : List Char → Double.Decimal
  | [] => ⟨kept, 0⟩
  | digit :: rest =>
      let next := kept * 10 + (digit.toNat - 48)
      if next ≤ greatestWhole then takeWhole next rest else ⟨kept, rest.length + 1⟩

/-- Take in digits after the point, up to the first one that does not fit. -/
def takeFraction (kept : Double.Decimal) : List Char → Double.Decimal
  | [] => kept
  | digit :: rest =>
      let next := kept.digits * 10 + (digit.toNat - 48)
      if next ≤ greatestWhole then takeFraction ⟨next, kept.power - 1⟩ rest else kept

namespace Numeral

/-- The digits that count, with their power of ten. -/
def decimal (numeral : Numeral) : Double.Decimal :=
  let digits := takeFraction (takeWhole 0 numeral.whole) numeral.fraction
  { digits with power := digits.power + numeral.exponent.getD 0 }

/-- Whether the number has neither a fraction nor an exponent. -/
def isWhole (numeral : Numeral) : Bool := numeral.fraction.isEmpty && numeral.exponent.isNone

/-- The value of the number with or without a minus sign; none beyond the double range. -/
def toJson? (negative : Bool) (numeral : Numeral) : Option Json :=
  let value := decimalValue numeral.whole
  if numeral.isWhole ∧ ¬ negative ∧ value ≤ greatestWhole then some (.int value)
  else if numeral.isWhole ∧ negative ∧ 0 < value ∧ value ≤ 9223372036854775808 then
    some (.int (-(value : Int)))
  else numeral.decimal.scaled?.map (.float negative)

end Numeral

end TaskBoard.Json
