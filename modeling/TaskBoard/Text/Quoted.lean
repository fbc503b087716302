import TaskBoard.Text.Unprinted

/-!
# Texts in quotation marks

A text that is reported inside a message stands in double quotation marks; the
marks, backslashes and characters without a visible form of their own are
written as escapes.
-/

namespace TaskBoard.Text

/-- Whether a character has no visible form of its own. -/
def isUnprinted (character : Char) : Bool :=
  let code := character.toNat
  decide (code < 0x20) ||
    (decide (0x7F ≤ code) &&
      unprintedRuns.any fun run => decide (run.1 ≤ code) && decide (code ≤ run.2))

/-- The escape that names a character by its code point in hexadecimal. -/
def codeEscape (character : Char) : List Char :=
  "\\u\x7b".toList ++ Nat.toDigits 16 character.toNat ++ ['\x7d']

/-- A character as it stands between quotation marks. -/
def quoteChar (character : Char) : List Char :=
  match character with
  | '"' => ['\\', '"']
  | '\\' => ['\\', '\\']
  | '\n' => ['\\', 'n']
  | '\r' => ['\\', 'r']
  | '\t' => ['\\', 't']
  | '\x00' => ['\\', '0']
  | other => if isUnprinted other then codeEscape other else [other]

/-- A text in quotation marks. -/
def quoted (text : String) : String :=
  String.ofList ('"' :: text.toList.flatMap quoteChar ++ ['"'])

end TaskBoard.Text
