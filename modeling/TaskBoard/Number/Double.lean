/-!
# Double-precision numbers, exactly

Averages and percentages are quotients of whole numbers, rounded once to the
nearest binary64 number.  `Double` holds such a number as `mantissa * 2 ^
exponent`, so that rounding (`ofRatio`), the bit pattern (`bits`), the shortest
decimal text (`shortest`) and the text with fixed decimal places (`fixed`) are
all computed with whole numbers.
-/

namespace TaskBoard

/-- A finite, non-negative binary64 number: `mantissa * 2 ^ exponent`.

The mantissa of a normal number has 53 bits; a number with a shorter mantissa
has the least exponent, -1074. -/
structure Double where
  mantissa : Nat
  exponent : Int
  deriving DecidableEq, Repr

namespace Double

/-- Zero. -/
def zero : Double := ⟨0, -1074⟩

instance : Inhabited Double := ⟨zero⟩

/-- The whole number nearest to a quotient; a tie goes to the even neighbour. -/
def roundDiv (numerator denominator : Nat) : Nat :=
  let quotient := numerator / denominator
  let remainder := numerator % denominator
  if 2 * remainder < denominator then quotient
  else if denominator < 2 * remainder then quotient + 1
  else if quotient % 2 = 0 then quotient
  else quotient + 1

/-- Numerator and denominator of a ratio divided by a power of two. -/
def scaleDown (numerator denominator : Nat) (power : Int) : Nat × Nat :=
  if 0 ≤ power then (numerator, denominator * Nat.pow 2 power.toNat)
  else (numerator * Nat.pow 2 (-power).toNat, denominator)

/-- The binary64 number nearest to a ratio, ties to the even mantissa. -/
def ofRatio (numerator denominator : Nat) : Double :=
  if numerator = 0 then zero
  else
    let magnitude : Int := (numerator.log2 : Int) - (denominator.log2 : Int)
    let low := max (magnitude - 53) (-1074)
    let (scaled, unit) := scaleDown numerator denominator low
    let exponent := if Nat.pow 2 53 ≤ scaled / unit then low + 1 else low
    let (scaled, unit) := scaleDown numerator denominator exponent
    let mantissa := roundDiv scaled unit
    if mantissa = Nat.pow 2 53 then ⟨Nat.pow 2 52, exponent + 1⟩ else ⟨mantissa, exponent⟩

/-- Whether the number lies beyond the finite range. -/
def overflows (number : Double) : Bool := decide (971 < number.exponent)

/-- The 64 bits of a finite number, as a natural number. -/
def bits (number : Double) : Nat :=
  if number.mantissa < Nat.pow 2 52 then number.mantissa
  else (number.exponent + 1075).toNat * Nat.pow 2 52 + (number.mantissa - Nat.pow 2 52)

/-- A sum divided by a count, and zero where nothing was counted. -/
def average (sum count : Nat) : Double := if count = 0 then zero else ofRatio sum count

/-- A part of a whole in percent, and zero where the whole is empty. -/
def percentage (part whole : Nat) : Double := average (part * 100) whole

/-- The number as a ratio, with numerator and denominator multiplied by four so
that the bounds of its rounding interval are whole numerators too. -/
def quarters (number : Double) : Nat × Nat :=
  if 0 ≤ number.exponent then (4 * number.mantissa * Nat.pow 2 number.exponent.toNat, 4)
  else (4 * number.mantissa, 4 * Nat.pow 2 (-number.exponent).toNat)

/-- Half the distance to the neighbour above, in the unit of `quarters`. -/
def reachAbove (number : Double) : Nat :=
  if 0 ≤ number.exponent then 2 * Nat.pow 2 number.exponent.toNat else 2

/-- Half the distance to the neighbour below, which is shorter at a power of two. -/
def reachBelow (number : Double) : Nat :=
  if number.mantissa = Nat.pow 2 52 ∧ -1074 < number.exponent then number.reachAbove / 2
  else number.reachAbove

/-- Decimal digits with the power of ten of the last one. -/
structure Decimal where
  digits : Nat
  power : Int
  deriving DecidableEq, Repr

/-- The greatest power of ten that is at most a ratio below one, negated. -/
def leadingZeros (numerator denominator : Nat) : Nat → Nat → Nat
  | 0, zeros => zeros
  | fuel + 1, zeros =>
      if denominator ≤ numerator * Nat.pow 10 zeros then zeros
      else leadingZeros numerator denominator fuel (zeros + 1)

/-- The power of ten of the first significant digit of a positive ratio. -/
def decimalExponent (numerator denominator : Nat) : Int :=
  if denominator ≤ numerator then
    ((Nat.toDigits 10 (numerator / denominator)).length : Int) - 1
  else -(leadingZeros numerator denominator 400 1 : Int)

/-- The point of the decimal grid `10 ^ power` that reads back as the number and
is nearest to it, if a point of the grid does; a tie goes to the even digits. -/
def onGrid? (number : Double) (power : Int) : Option Decimal :=
  let (value, unit) := number.quarters
  let (step, value, unit) :=
    if 0 ≤ power then (unit * Nat.pow 10 power.toNat, value, unit)
    else (unit, value * Nat.pow 10 (-power).toNat, unit * Nat.pow 10 (-power).toNat)
  let scale := unit / number.quarters.2
  let above := number.reachAbove * scale
  let below := number.reachBelow * scale
  let closed := number.mantissa % 2 = 0
  let down := value / step
  let up := down + 1
  let downFits := value - down * step < below ∨ (closed ∧ value - down * step = below)
  let upFits := up * step - value < above ∨ (closed ∧ up * step - value = above)
  if downFits ∧ upFits then
    some ⟨if (value - down * step) * 2 < step then down
      else if step < (value - down * step) * 2 then up
      else if down % 2 = 0 then down else up, power⟩
  else if downFits then some ⟨down, power⟩
  else if upFits then some ⟨up, power⟩
  else none

/-- The decimal with the fewest digits that reads back as the number, and of
those the nearest one. -/
def shortest (number : Double) : Decimal :=
  if number.mantissa = 0 then ⟨0, 0⟩
  else
    let leading := decimalExponent number.quarters.1 number.quarters.2
    let grids := (List.range 17).map fun (count : Nat) => leading - (count : Int)
    (grids.findSome? number.onGrid?).getD ⟨0, 0⟩

/-- Trailing zeros moved from the digits into the power of ten. -/
def Decimal.trim : Nat → Decimal → Decimal
  | 0, decimal => decimal
  | fuel + 1, decimal =>
      if decimal.digits ≠ 0 ∧ decimal.digits % 10 = 0 then
        trim fuel ⟨decimal.digits / 10, decimal.power + 1⟩
      else decimal

/-- The text of a number: positional with at least one decimal place for
exponents from -5 to 15, otherwise scientific with a signed exponent. -/
def text (number : Double) : String :=
  let decimal := number.shortest.trim 20
  let digits := Nat.toDigits 10 decimal.digits
  let count := digits.length
  let exponent := decimal.power + (count : Int) - 1
  if decimal.digits = 0 then "0.0"
  else if exponent < -5 ∨ 15 < exponent then
    let sign := if exponent < 0 then "-" else "+"
    let fraction := if count = 1 then "" else "." ++ String.ofList (digits.drop 1)
    String.ofList (digits.take 1) ++ fraction ++ "e" ++ sign ++ toString exponent.natAbs
  else if exponent < 0 then
    "0." ++ String.ofList (List.replicate (exponent.natAbs - 1) '0' ++ digits)
  else
    let whole := exponent.toNat + 1
    if count ≤ whole then
      String.ofList (digits ++ List.replicate (whole - count) '0') ++ ".0"
    else String.ofList (digits.take whole) ++ "." ++ String.ofList (digits.drop whole)

/-- The text of a number with `places` decimal places, at least one; the exact
value is rounded and a tie goes to the even digit. -/
def fixed (places : Nat) (number : Double) : String :=
  let (value, unit) := number.quarters
  let scaled := roundDiv (value * Nat.pow 10 places) unit
  let fraction := Nat.toDigits 10 (scaled % Nat.pow 10 places)
  toString (scaled / Nat.pow 10 places) ++ "." ++
    String.ofList (List.replicate (places - fraction.length) '0' ++ fraction)

end Double

end TaskBoard
