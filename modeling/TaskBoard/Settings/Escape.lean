import TaskBoard.Text.Numeral

/-!
# Escapes in quoted values

A backslash and a letter or a mark denote a character; `u` and `U` stand before
the four or eight hexadecimal digits of its code point.
-/

namespace TaskBoard.Settings.Escape

/-- A character that may not stand in a quoted value: a control other than the tabulator. -/
def isControl (character : Char) : Bool :=
  (decide (character.toNat < 0x20) && character != '\t') || character.toNat == 0x7F

/-- A fixed number of hexadecimal digits as a character, and the text after them. -/
def readCode? (count : Nat) (text : List Char) : Option (Char × List Char) := do
  let digits ← (text.take count).mapM (Text.digitBelow? 16)
  let code := digits.foldl (fun value digit => value * 16 + digit) 0
  if digits.length = count ∧ (code < 0xD800 ∨ (0xDFFF < code ∧ code < 0x110000)) then
    return (Char.ofNat code, text.drop count)
  else none

/-- The character that an escape denotes after its backslash, and the text after it. -/
def read? : List Char → Option (Char × List Char)
  | 'b' :: rest => some ('\x08', rest)
  | 't' :: rest => some ('\t', rest)
  | 'n' :: rest => some ('\n', rest)
  | 'f' :: rest => some ('\x0c', rest)
  | 'r' :: rest => some ('\r', rest)
  | '"' :: rest => some ('"', rest)
  | '\\' :: rest => some ('\\', rest)
  | 'u' :: rest => readCode? 4 rest
  | 'U' :: rest => readCode? 8 rest
  | _ => none

end TaskBoard.Settings.Escape
