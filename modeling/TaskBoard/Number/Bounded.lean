/-!
# Numbers of bounded width

The board stores scores, counters and rewards in fixed widths.  A value of
`Bounded limit` is a natural number that is at most `limit`; its arithmetic
stops at the limit and at zero instead of wrapping.
-/

namespace TaskBoard

/-- A natural number that is at most `limit`. -/
structure Bounded (limit : Nat) where
  val : Nat
  le_limit : val ≤ limit
  deriving DecidableEq

/-- Numbers of eight bits. -/
abbrev Word8 := Bounded 255

/-- Numbers of thirty-two bits. -/
abbrev Word32 := Bounded 4294967295

/-- Numbers of sixty-four bits. -/
abbrev Word64 := Bounded 18446744073709551615

namespace Bounded

variable {limit : Nat}

@[ext] theorem ext {left right : Bounded limit} (equal : left.val = right.val) :
    left = right := by
  cases left
  cases right
  cases equal
  rfl

/-- The number itself when it fits, and the limit when it does not. -/
def cap (number : Nat) : Bounded limit := ⟨min number limit, Nat.min_le_right number limit⟩

/-- The number itself, if it fits. -/
def ofNat? (number : Nat) : Option (Bounded limit) :=
  if fits : number ≤ limit then some ⟨number, fits⟩ else none

instance : Inhabited (Bounded limit) := ⟨⟨0, Nat.zero_le limit⟩⟩

/-- A literal denotes the capped number, so a literal within the limit denotes itself. -/
instance (number : Nat) : OfNat (Bounded limit) number := ⟨cap number⟩

/-- Addition that stops at the limit. -/
def add (left right : Bounded limit) : Bounded limit := cap (left.val + right.val)

/-- Subtraction that stops at zero. -/
def sub (left right : Bounded limit) : Bounded limit :=
  ⟨left.val - right.val, Nat.le_trans (Nat.sub_le left.val right.val) left.le_limit⟩

/-- Multiplication that stops at the limit. -/
def mul (left right : Bounded limit) : Bounded limit := cap (left.val * right.val)

/-- Division without remainder. -/
def div (left : Bounded limit) (divisor : Nat) : Bounded limit :=
  ⟨left.val / divisor, Nat.le_trans (Nat.div_le_self left.val divisor) left.le_limit⟩

/-- The sum of a list, stopping at the limit after each addition. -/
def sum (numbers : List (Bounded limit)) : Bounded limit := numbers.foldl add (cap 0)

@[simp] theorem cap_val (number : Nat) :
    (cap number : Bounded limit).val = min number limit := rfl

/-- A literal within the limit denotes its number. -/
theorem ofNat_val {number : Nat} (fits : number ≤ limit) :
    (no_index (OfNat.ofNat number) : Bounded limit).val = number := Nat.min_eq_left fits

@[simp] theorem add_val (left right : Bounded limit) :
    (left.add right).val = min (left.val + right.val) limit := rfl

@[simp] theorem mul_val (left right : Bounded limit) :
    (left.mul right).val = min (left.val * right.val) limit := rfl

@[simp] theorem div_val (left : Bounded limit) (divisor : Nat) :
    (left.div divisor).val = left.val / divisor := rfl

/-- A number that fits is read back as itself. -/
@[simp] theorem ofNat?_val (number : Bounded limit) : ofNat? number.val = some number := by
  simp [ofNat?, number.le_limit]

theorem val_of_ofNat? {number : Nat} {bounded : Bounded limit}
    (fits : ofNat? number = some bounded) : bounded.val = number := by
  rw [ofNat?] at fits
  split at fits
  · cases fits
    rfl
  · cases fits

end Bounded

end TaskBoard
