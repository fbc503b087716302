/-!
# White space

`isBlank` is the Unicode property White_Space, and `trim` removes it from both
ends of a text.
-/

namespace TaskBoard.Text

/-- A character with the Unicode property White_Space. -/
def isBlank (character : Char) : Bool :=
  let code := character.toNat
  (9 ≤ code && code ≤ 13) || code == 0x20 || code == 0x85 || code == 0xA0 ||
    code == 0x1680 || (0x2000 ≤ code && code ≤ 0x200A) || code == 0x2028 ||
    code == 0x2029 || code == 0x202F || code == 0x205F || code == 0x3000

/-- The characters without the white space before the first other character. -/
def dropBlank (characters : List Char) : List Char := characters.dropWhile isBlank

/-- The characters without white space at either end. -/
def trimChars (characters : List Char) : List Char :=
  (dropBlank (dropBlank characters).reverse).reverse

/-- The text without white space at either end. -/
def trim (text : String) : String := String.ofList (trimChars text.toList)

/-- A text that holds nothing but white space. -/
def isAllBlank (text : String) : Bool := (trimChars text.toList).isEmpty

end TaskBoard.Text
