import TaskBoard.Text.LowercaseRuns

/-!
# Lower-casing, character by character

Each character is replaced by its full lower-case mapping, without regard to its
neighbours: a capital sigma at the end of a word becomes an ordinary sigma, and
a dotted capital I becomes an i followed by a combining dot.
-/

namespace TaskBoard.Text

/-- The lower-case form of a character: one character, or two for the dotted
capital I. -/
def lowerChar (character : Char) : List Char :=
  if character.toNat < 128 then [character.toLower]
  else if character.toNat = 0x130 then ['i', Char.ofNat 0x307]
  else
    match lowercaseRuns.find? fun run => run.covers character.toNat with
    | some run => [Char.ofNat (run.image character.toNat)]
    | none => [character]

/-- The characters lower-cased one by one. -/
def lowerChars (characters : List Char) : List Char := characters.flatMap lowerChar

theorem lowerChar_ne_nil (character : Char) : lowerChar character ≠ [] := by
  unfold lowerChar
  split
  · simp
  · split
    · simp
    · split <;> simp

@[simp] theorem lowerChars_nil : lowerChars [] = [] := rfl

@[simp] theorem lowerChars_cons (character : Char) (rest : List Char) :
    lowerChars (character :: rest) = lowerChar character ++ lowerChars rest := rfl

@[simp] theorem lowerChars_append (left right : List Char) :
    lowerChars (left ++ right) = lowerChars left ++ lowerChars right := by
  simp [lowerChars]

/-- Only the empty text has an empty lower-case form. -/
@[simp] theorem lowerChars_eq_nil {characters : List Char} :
    lowerChars characters = [] ↔ characters = [] := by
  cases characters with
  | nil => simp
  | cons character rest => simp [lowerChar_ne_nil]

/-- Two texts that are equal up to the case of ASCII letters. -/
def eqIgnoringAsciiCase (left right : List Char) : Bool :=
  left.map Char.toLower == right.map Char.toLower

end TaskBoard.Text
