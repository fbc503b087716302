import TaskBoard.Number.Double

/-!
# Decimal numerals as double-precision numbers

A numeral is a whole number times a power of ten.  `Decimal.nearest?` rounds its
exact value once; `Decimal.scaled?` first rounds the whole number and then the
product or the quotient with a power of ten, which may end beside the nearest
number.
-/

namespace TaskBoard.Double

/-- The number nearest to a whole number times a power of two. -/
def ofScaled (whole : Nat) (power : Int) : Double :=
  if 0 ≤ power then ofRatio (whole * Nat.pow 2 power.toNat) 1
  else ofRatio whole (Nat.pow 2 (-power).toNat)

/-- The product of two numbers, rounded once. -/
def times (left right : Double) : Double :=
  ofScaled (left.mantissa * right.mantissa) (left.exponent + right.exponent)

/-- The quotient of two numbers, rounded once. -/
def dividedBy (left right : Double) : Double :=
  let power := left.exponent - right.exponent
  if 0 ≤ power then ofRatio (left.mantissa * Nat.pow 2 power.toNat) right.mantissa
  else ofRatio left.mantissa (right.mantissa * Nat.pow 2 (-power).toNat)

/-- The greatest exponent of a power of ten below the end of the range. -/
def greatestPower : Nat := 308

/-- The number nearest to a power of ten. -/
def powerOfTen (power : Nat) : Double := ofRatio (Nat.pow 10 power) 1

/-- A number divided by a power of ten, in steps where the power is beyond the range. -/
def shrink (number : Double) (power : Nat) : Double :=
  if power ≤ greatestPower then number.dividedBy (powerOfTen power)
  else if number.mantissa = 0 then number
  else shrink (number.dividedBy (powerOfTen greatestPower)) (power - greatestPower)
termination_by power
decreasing_by simp [greatestPower] at *; omega

namespace Decimal

/-- The number nearest to a numeral, unless it is beyond the range. -/
def nearest? (decimal : Decimal) : Option Double :=
  let size := decimal.power + (Nat.toDigits 10 decimal.digits).length
  if decimal.digits = 0 ∨ size < -400 then some zero
  else if 400 < size then none
  else
    let number :=
      if 0 ≤ decimal.power then ofRatio (decimal.digits * Nat.pow 10 decimal.power.toNat) 1
      else ofRatio decimal.digits (Nat.pow 10 (-decimal.power).toNat)
    if number.overflows then none else some number

/-- A numeral by its digits and then its power of ten, each rounded, unless the
result is beyond the range. -/
def scaled? (decimal : Decimal) : Option Double :=
  let number := ofRatio decimal.digits 1
  if decimal.power < 0 then some (number.shrink decimal.power.natAbs)
  else if number.mantissa = 0 then some zero
  else if greatestPower < decimal.power then none
  else
    let product := number.times (powerOfTen decimal.power.toNat)
    if product.overflows then none else some product

end Decimal

end TaskBoard.Double
