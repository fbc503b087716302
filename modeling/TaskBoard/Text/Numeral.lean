/-!
# Whole numbers in text

A numeral is an optional `+` and at least one digit of the base; a signed one
may have `-` instead.  A numeral is read from the left, and the first digit that
is bad or leads beyond the limit decides what is wrong with it.
-/

namespace TaskBoard.Text

/-- Why a text is not a numeral of the wanted width. -/
inductive NumeralError where
  | empty
  | badDigit
  | tooLarge
  | tooSmall
  deriving DecidableEq, Repr

/-- The text that reports a bad numeral. -/
def NumeralError.message : NumeralError → String
  | .empty => "cannot parse integer from empty string"
  | .badDigit => "invalid digit found in string"
  | .tooLarge => "number too large to fit in target type"
  | .tooSmall => "number too small to fit in target type"

/-- The value of a digit in bases up to sixteen; letters count in both cases. -/
def digitValue? (character : Char) : Option Nat :=
  if '0' ≤ character ∧ character ≤ '9' then some (character.toNat - 48)
  else if 'a' ≤ character ∧ character ≤ 'f' then some (character.toNat - 87)
  else if 'A' ≤ character ∧ character ≤ 'F' then some (character.toNat - 55)
  else none

/-- The digit's value, if it is below the base. -/
def digitBelow? (base : Nat) (character : Char) : Option Nat :=
  (digitValue? character).filter fun value => value < base

/-- The digits of a base after the digits already read; the first bad digit or
the first step beyond the limit stops the reading. -/
def readDigits (base limit : Nat) : Nat → List Char → Except NumeralError Nat
  | value, [] => .ok value
  | value, character :: rest =>
      match digitBelow? base character with
      | none => .error .badDigit
      | some digit =>
          let next := value * base + digit
          if limit < next then .error .tooLarge else readDigits base limit next rest

/-- A numeral without sign, or with `+`. -/
def readNatural (base limit : Nat) : List Char → Except NumeralError Nat
  | [] => .error .empty
  | ['+'] => .error .badDigit
  | '+' :: rest => readDigits base limit 0 rest
  | characters => readDigits base limit 0 characters

/-- A decimal numeral with an optional sign, between `-below` and `above`. -/
def readInteger (below above : Nat) : List Char → Except NumeralError Int
  | ['-'] => .error .badDigit
  | '-' :: rest =>
      match readDigits 10 below 0 rest with
      | .ok value => .ok (-(value : Int))
      | .error .tooLarge => .error .tooSmall
      | .error cause => .error cause
  | characters => (readNatural 10 above characters).map Int.ofNat

end TaskBoard.Text
