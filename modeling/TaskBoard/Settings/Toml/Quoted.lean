import TaskBoard.Settings.Escape

/-!
# Strings in TOML

A string stands between quotation marks, with escapes, or between apostrophes,
without; three marks enclose several lines.  A line break right behind three
opening marks does not count, and a backslash at the end of a line joins the next
word to it.
-/

namespace TaskBoard.Settings.Toml

/-- The text without leading blanks. -/
def skipBlank (text : List Char) : List Char :=
  text.dropWhile fun character => character == ' ' || character == '\t'

/-- The text after a line break, if it begins with one. -/
def afterBreak? : List Char → Option (List Char)
  | '\n' :: rest => some rest
  | '\r' :: '\n' :: rest => some rest
  | _ => none

/-- The characters of a string with escapes up to its closing mark, and the text after it. -/
def readBasic? : (fuel : Nat) → List Char → Option (List Char × List Char)
  | 0, _ => none
  | _ + 1, [] => none
  | _ + 1, '"' :: rest => some ([], rest)
  | fuel + 1, '\\' :: rest => do
      let (character, rest) ← Escape.read? rest
      let (characters, rest) ← readBasic? fuel rest
      return (character :: characters, rest)
  | fuel + 1, character :: rest =>
      if Escape.isControl character then none
      else (readBasic? fuel rest).map fun (characters, after) => (character :: characters, after)

/-- The characters of a string without escapes up to its closing mark, and the text after it. -/
def readLiteral? (text : List Char) : Option (List Char × List Char) :=
  let characters := text.takeWhile fun character => character != '\x27'
  match text.drop characters.length with
  | [] => none
  | _ :: rest =>
      if characters.any Escape.isControl then none else some (characters, rest)

/-- The text without leading blanks and line breaks. -/
def skipBreaks : List Char → List Char
  | ' ' :: rest => skipBreaks rest
  | '\t' :: rest => skipBreaks rest
  | '\n' :: rest => skipBreaks rest
  | '\r' :: '\n' :: rest => skipBreaks rest
  | text => text

/-- The marks that close a string of several lines: three, and in front of them
up to two that belong to the string. -/
def closing? (mark : Char) (text : List Char) : Option (List Char × List Char) :=
  let count := (text.takeWhile fun character => character == mark).length
  if count < 3 then none
  else
    let own := min (count - 3) 2
    some (List.replicate own mark, text.drop (own + 3))

/-- The characters of a string of several lines up to its closing marks, and the
text after them; `escapes` says whether a backslash begins an escape. -/
def readLines? (mark : Char) (escapes : Bool) :
    (fuel : Nat) → List Char → Option (List Char × List Char)
  | 0, _ => none
  | fuel + 1, text =>
      match closing? mark text with
      | some closed => some closed
      | none =>
          match afterBreak? text with
          | some rest =>
              (readLines? mark escapes fuel rest).map fun (characters, after) =>
                ('\n' :: characters, after)
          | none =>
              match text with
              | [] => none
              | character :: rest =>
                  if escapes ∧ character = '\\' then
                    match afterBreak? (skipBlank rest) with
                    | some rest => readLines? mark escapes fuel (skipBreaks rest)
                    | none => do
                        let (character, rest) ← Escape.read? rest
                        let (characters, rest) ← readLines? mark escapes fuel rest
                        return (character :: characters, rest)
                  else if Escape.isControl character then none
                  else
                    (readLines? mark escapes fuel rest).map fun (characters, after) =>
                      (character :: characters, after)

/-- A string on one line, and the text after it. -/
def readShort? : List Char → Option (String × List Char)
  | '"' :: rest =>
      (readBasic? (rest.length + 1) rest).map fun (characters, after) =>
        (String.ofList characters, after)
  | '\x27' :: rest =>
      (readLiteral? rest).map fun (characters, after) => (String.ofList characters, after)
  | _ => none

/-- A string, and the text after it. -/
def readString? (text : List Char) : Option (String × List Char) :=
  let readBlock (mark : Char) (escapes : Bool) (text : List Char) :=
    let text := (afterBreak? text).getD text
    (readLines? mark escapes (text.length + 1) text).map fun (characters, after) =>
      (String.ofList characters, after)
  match text with
  | '"' :: '"' :: '"' :: rest => readBlock '"' true rest
  | '\x27' :: '\x27' :: '\x27' :: rest => readBlock '\x27' false rest
  | text => readShort? text

end TaskBoard.Settings.Toml
