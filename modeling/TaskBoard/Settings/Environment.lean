import TaskBoard.Settings.Escape
import TaskBoard.Settings.Source
import TaskBoard.Text.Lowercase
import TaskBoard.Text.Utf8

/-!
# Settings in the environment

Environment variables whose names begin with `DECENTRA_`, in any case, are
settings; two underscores lead from a section into it.  A value is a whole
number, a text in quotation marks, a list or a table in brackets, or a plain text.

In front of the first escape of a quoted text as many bytes are kept as there
are characters.  The text is whole where these are all ASCII; where the bytes end
inside a character, the environment cannot be used at all.
-/

namespace TaskBoard.Settings.Environment

/-- The beginning of the names of settings. -/
def marker : String := "DECENTRA_"

/-- Two underscores replaced by a point, from left to right. -/
def splitSections : List Char → List Char
  | '_' :: '_' :: rest => '.' :: splitSections rest
  | character :: rest => character :: splitSections rest
  | [] => []

/-- The path of the setting that a variable names, if it names one. -/
def path? (name : String) : Option (List String) :=
  let characters := Text.trimChars name.toList
  let start := characters.take marker.length
  let rest := characters.drop marker.length
  if Text.eqIgnoringAsciiCase start marker.toList ∧
      ¬ Text.eqIgnoringAsciiCase rest ['l', 'o', 'g'] then
    let parts := ((Text.trimChars (splitSections rest)).map Char.toLower).splitOn '.'
    if parts.any List.isEmpty then none else some (parts.map String.ofList)
  else none

/-- A character that ends a plain value. -/
def isDelimiter (character : Char) : Bool :=
  character == ',' || character == '[' || character == ']' || character == '\x7b' ||
    character == '\x7d'

/-- Whether a text is a number with a decimal point. -/
def isDecimal (text : List Char) : Bool :=
  let unsigned : List Char → List Char
    | '+' :: rest => rest
    | '-' :: rest => rest
    | other => other
  let body := unsigned text
  let whole := body.takeWhile Char.isDigit
  match body.drop whole.length with
  | '.' :: rest =>
      let fraction := rest.takeWhile Char.isDigit
      let exponent := rest.drop fraction.length
      let exponentFits : Bool :=
        match exponent with
        | [] => true
        | mark :: digits =>
            (mark == 'e' || mark == 'E') && !(unsigned digits).isEmpty &&
              (unsigned digits).all Char.isDigit
      !(whole.isEmpty && fraction.isEmpty) && exponentFits
  | _ => false

/-- The value of a plain word. -/
def readWord (word : List Char) : Source :=
  if isDecimal word then .other
  else
    match Text.readNatural 10 18446744073709551615 word with
    | .ok value => .number value
    | .error _ =>
        match Text.readInteger 9223372036854775808 9223372036854775807 word with
        | .ok value => .number value
        | .error _ => .text (String.ofList word)

/-- Why a value is not read. -/
inductive Fault where
  /-- The value has no form of its own and is a plain text. -/
  | formless
  /-- A character would be cut. -/
  | cutCharacter
  deriving DecidableEq, Repr

/-- The characters in the first bytes of a text; none where the bytes end inside one. -/
def firstBytes? : List Char → (size : Nat) → Option (List Char)
  | _, 0 => some []
  | [], _ + 1 => some []
  | character :: rest, size + 1 =>
      if character.utf8Size ≤ size + 1 then
        (firstBytes? rest (size + 1 - character.utf8Size)).map (character :: ·)
      else none

/-- The characters that a quoted text denotes from its first escape on. -/
def unescapeRest : (fuel : Nat) → List Char → Except Fault (List Char)
  | 0, _ => .error .formless
  | _ + 1, [] => .ok []
  | fuel + 1, '\\' :: rest =>
      match Escape.read? rest with
      | none => .error .formless
      | some (character, rest) => (unescapeRest fuel rest).map (character :: ·)
  | fuel + 1, character :: rest =>
      if Escape.isControl character then .error .formless
      else (unescapeRest fuel rest).map (character :: ·)

/-- The text that the characters between two quotation marks denote. -/
def unescape (quoted : List Char) : Except Fault String :=
  let plain := quoted.takeWhile fun character => character != '\\'
  if plain.any Escape.isControl then .error .formless
  else
    match quoted.drop plain.length with
    | [] => .ok (String.ofList plain)
    | escapes =>
        match firstBytes? plain plain.length with
        | none => .error .cutCharacter
        | some kept =>
            (unescapeRest (escapes.length + 1) escapes).map fun rest => String.ofList (kept ++ rest)

/-- The characters up to a closing quotation mark, where a backslash keeps the
next character, and the text after the mark. -/
def splitQuoted? : List Char → Option (List Char × List Char)
  | [] => none
  | '"' :: rest => some ([], rest)
  | '\\' :: character :: rest =>
      (splitQuoted? rest).map fun (characters, after) => ('\\' :: character :: characters, after)
  | character :: rest =>
      (splitQuoted? rest).map fun (characters, after) => (character :: characters, after)

/-- A quoted text behind its opening mark, and the text after it. -/
def readQuoted (text : List Char) : Except Fault (String × List Char) :=
  match splitQuoted? text with
  | none => .error .formless
  | some (quoted, rest) => (unescape quoted).map fun value => (value, rest)

/-- The text without leading blanks of ASCII. -/
def skipBlank (text : List Char) : List Char :=
  text.dropWhile fun character =>
    character == ' ' || character == '\t' || character == '\n' || character == '\x0c' ||
      character == '\r'

/-- The name of an entry of a table, and the text after it. -/
def readName (text : List Char) : Except Fault (String × List Char) :=
  match text with
  | '"' :: rest => readQuoted rest
  | _ =>
      let name := text.takeWhile fun character =>
        character.isAlphanum || character == '_' || character == '-'
      if name.isEmpty then .error .formless
      else .ok (String.ofList name, text.drop name.length)

mutual

/-- A value that begins a text, and the text after it and after the blanks that follow. -/
def readLeading : (fuel : Nat) → List Char → Except Fault (Source × List Char)
  | 0, _ => .error .formless
  | fuel + 1, text => do
      let (value, rest) ←
        match skipBlank text with
        | 't' :: 'r' :: 'u' :: 'e' :: rest => .ok (Source.other, rest)
        | 'f' :: 'a' :: 'l' :: 's' :: 'e' :: rest => .ok (Source.other, rest)
        | '"' :: rest => (readQuoted rest).map fun (value, after) => (Source.text value, after)
        | '\x27' :: character :: '\x27' :: rest =>
            .ok (Source.text (String.singleton character), rest)
        | '\x27' :: _ => .error .formless
        | '[' :: rest =>
            (readItems fuel [] rest).map fun (items, after) => (Source.list items, after)
        | '\x7b' :: rest =>
            (readEntries fuel [] rest).map fun (entries, after) => (Source.table entries, after)
        | text =>
            let word := text.takeWhile fun character => !isDelimiter character
            .ok (readWord (Text.trimChars word), text.drop word.length)
      return (value, skipBlank rest)

/-- The items of a list behind those that were read, and the text after it. -/
def readItems : (fuel : Nat) → List Source → List Char → Except Fault (List Source × List Char)
  | 0, _, _ => .error .formless
  | _ + 1, done, ']' :: rest => .ok (done.reverse, rest)
  | fuel + 1, done, text => do
      let (value, rest) ← readLeading fuel text
      match rest with
      | ',' :: rest => readItems fuel (value :: done) rest
      | ']' :: rest => .ok ((value :: done).reverse, rest)
      | _ => .error .formless

/-- The entries of a table behind those that were read, and the text after it. -/
def readEntries : (fuel : Nat) → List (String × Source) → List Char →
    Except Fault (List (String × Source) × List Char)
  | 0, _, _ => .error .formless
  | _ + 1, entries, '\x7d' :: rest => .ok (entries, rest)
  | fuel + 1, entries, text => do
      let (name, rest) ← readName (skipBlank text)
      match skipBlank rest with
      | '=' :: rest =>
          let (value, rest) ← readLeading fuel rest
          let entries := (name, value) :: entries.filter fun entry => entry.1 != name
          match rest with
          | ',' :: rest => readEntries fuel entries rest
          | '\x7d' :: rest => .ok (entries, rest)
          | _ => .error .formless
      | _ => .error .formless

end

/-- The value of a variable; what cannot be read as a whole is a plain text.
There is none where a character would be cut. -/
def readValue? (value : String) : Option Source :=
  match readLeading (2 * value.length + 2) value.toList with
  | .ok (source, []) => some source
  | .ok _ => some (.text value)
  | .error .formless => some (.text value)
  | .error .cutCharacter => none

/-- A value under a path of names. -/
def nest (value : Source) : List String → Source
  | [] => value
  | name :: rest => .table [(name, nest value rest)]

/-- The source that the variables of an environment make up, if every value can
be read; later variables lie over earlier ones. -/
def toSource? (environment : List (String × String)) : Option Source :=
  environment.foldlM
    (fun source entry =>
      match path? entry.1 with
      | some path => (readValue? entry.2).map fun value => (nest value path).overlay source
      | none => some source)
    Source.nothing

end TaskBoard.Settings.Environment
