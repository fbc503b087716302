import TaskBoard.Json.Numeral

/-!
# Reading JSON text

The reader takes the grammar of RFC 8259 strictly: one value with nothing but
white space around it, no control characters and no lone surrogates in strings,
no numbers beyond the double range, and at most 127 levels of nesting.
-/

namespace TaskBoard.Json

/-- The characters without leading white space of the JSON grammar. -/
def skipSpace : List Char → List Char
  | character :: rest =>
      if character = ' ' ∨ character = '\n' ∨ character = '\t' ∨ character = '\r' then
        skipSpace rest
      else character :: rest
  | [] => []

/-- The value of a hexadecimal digit. -/
def hexValue? (character : Char) : Option Nat :=
  if '0' ≤ character ∧ character ≤ '9' then some (character.toNat - 48)
  else if 'a' ≤ character ∧ character ≤ 'f' then some (character.toNat - 87)
  else if 'A' ≤ character ∧ character ≤ 'F' then some (character.toNat - 55)
  else none

/-- Four hexadecimal digits as a number, and the text after them. -/
def readHex4? : List Char → Option (Nat × List Char)
  | a :: b :: c :: d :: rest => do
      let a ← hexValue? a
      let b ← hexValue? b
      let c ← hexValue? c
      let d ← hexValue? d
      return (((a * 16 + b) * 16 + c) * 16 + d, rest)
  | _ => none

/-- The character of a numeric escape, which two escapes denote for a surrogate pair. -/
def readCodeEscape? (text : List Char) : Option (Char × List Char) := do
  let (code, rest) ← readHex4? text
  if code < 0xD800 ∨ 0xDFFF < code then return (Char.ofNat code, rest)
  else if 0xDC00 ≤ code then none
  else
    match rest with
    | '\\' :: 'u' :: rest =>
        let (low, rest) ← readHex4? rest
        if 0xDC00 ≤ low ∧ low ≤ 0xDFFF then
          return (Char.ofNat (0x10000 + (code - 0xD800) * 0x400 + (low - 0xDC00)), rest)
        else none
    | _ => none

/-- The characters of a string up to its closing mark, and the text after it;
the characters already read stand in reverse order. -/
def readString? : (fuel : Nat) → (done : List Char) → List Char → Option (String × List Char)
  | 0, _, _ => none
  | _ + 1, _, [] => none
  | fuel + 1, done, character :: rest =>
      if character = '"' then some (String.ofList done.reverse, rest)
      else if character.toNat < 0x20 then none
      else if character = '\\' then
        match rest with
        | '"' :: rest => readString? fuel ('"' :: done) rest
        | '\\' :: rest => readString? fuel ('\\' :: done) rest
        | '/' :: rest => readString? fuel ('/' :: done) rest
        | 'b' :: rest => readString? fuel ('\x08' :: done) rest
        | 'f' :: rest => readString? fuel ('\x0c' :: done) rest
        | 'n' :: rest => readString? fuel ('\n' :: done) rest
        | 'r' :: rest => readString? fuel ('\r' :: done) rest
        | 't' :: rest => readString? fuel ('\t' :: done) rest
        | 'u' :: rest =>
            match readCodeEscape? rest with
            | some (escaped, rest) => readString? fuel (escaped :: done) rest
            | none => none
        | _ => none
      else readString? fuel (character :: done) rest

/-- A number after its sign, and the text after it. -/
def readNumber? (negative : Bool) (text : List Char) : Option (Json × List Char) := do
  let (numeral, rest) ← readNumeral? text
  return (← numeral.toJson? negative, rest)

mutual

/-- A value after optional white space, and the text after it.  `depth` levels
of nesting are left. -/
def readValue? : (fuel depth : Nat) → List Char → Option (Json × List Char)
  | 0, _, _ => none
  | fuel + 1, depth, text =>
      match skipSpace text with
      | 'n' :: 'u' :: 'l' :: 'l' :: rest => some (.null, rest)
      | 't' :: 'r' :: 'u' :: 'e' :: rest => some (.bool true, rest)
      | 'f' :: 'a' :: 'l' :: 's' :: 'e' :: rest => some (.bool false, rest)
      | '"' :: rest =>
          (readString? fuel [] rest).map fun (value, after) => (.string value, after)
      | '[' :: rest =>
          match depth with
          | 0 => none
          | depth + 1 =>
              match skipSpace rest with
              | ']' :: rest => some (.array [], rest)
              | rest =>
                  (readItems? fuel depth [] rest).map fun (items, after) => (.array items, after)
      | '\x7b' :: rest =>
          match depth with
          | 0 => none
          | depth + 1 =>
              match skipSpace rest with
              | '\x7d' :: rest => some (.object [], rest)
              | rest =>
                  (readMembers? fuel depth [] rest).map fun (members, after) =>
                    (.object members, after)
      | '-' :: rest => readNumber? true rest
      | rest => readNumber? false rest

/-- The items of an array from one of them on, and the text after the array. -/
def readItems? : (fuel depth : Nat) → List Json → List Char → Option (List Json × List Char)
  | 0, _, _, _ => none
  | fuel + 1, depth, done, text =>
      match readValue? fuel depth text with
      | none => none
      | some (item, rest) =>
          match skipSpace rest with
          | ',' :: rest => readItems? fuel depth (item :: done) rest
          | ']' :: rest => some ((item :: done).reverse, rest)
          | _ => none

/-- The members of an object from one of them on, and the text after the object. -/
def readMembers? : (fuel depth : Nat) → List (String × Json) → List Char →
    Option (List (String × Json) × List Char)
  | 0, _, _, _ => none
  | fuel + 1, depth, done, text =>
      match skipSpace text with
      | '"' :: rest =>
          match readString? fuel [] rest with
          | none => none
          | some (name, rest) =>
              match skipSpace rest with
              | ':' :: rest =>
                  match readValue? fuel depth rest with
                  | none => none
                  | some (value, rest) =>
                      match skipSpace rest with
                      | ',' :: rest => readMembers? fuel depth ((name, value) :: done) rest
                      | '\x7d' :: rest => some (((name, value) :: done).reverse, rest)
                      | _ => none
              | _ => none
      | _ => none

end

/-- The levels of nesting that a text may have. -/
def nestingLimit : Nat := 127

/-- The value that a text denotes, if it is JSON. -/
def read? (text : String) : Option Json :=
  let characters := text.toList
  match readValue? (2 * characters.length + 2) nestingLimit characters with
  | some (value, rest) => if (skipSpace rest).isEmpty then some value else none
  | none => none

end TaskBoard.Json
