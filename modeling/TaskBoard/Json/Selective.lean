import TaskBoard.Json.Reader

/-!
# Reading records and passing over the rest

Of the members of a record only those with wanted names are read.  The others
are passed over: they follow the grammar, but their numbers may lie beyond any
range, their escapes may denote lone surrogates, and they may be nested to any
depth.
-/

namespace TaskBoard.Json

/-- The text after a string that is passed over. -/
def passString? : List Char → Option (List Char)
  | [] => none
  | '"' :: rest => some rest
  | '\\' :: 'u' :: a :: b :: c :: d :: rest =>
      if [a, b, c, d].all fun digit => (hexValue? digit).isSome then passString? rest else none
  | '\\' :: escaped :: rest =>
      if ['"', '\\', '/', 'b', 'f', 'n', 'r', 't'].contains escaped then passString? rest
      else none
  | character :: rest => if character.toNat < 0x20 then none else passString? rest

/-- What encloses a value. -/
inductive Enclosure where
  | array
  | object
  deriving DecidableEq, Repr

mutual

/-- The text after a value and after all that encloses it. -/
def passValue? : (fuel : Nat) → List Enclosure → List Char → Option (List Char)
  | 0, _, _ => none
  | fuel + 1, enclosing, text =>
      match skipSpace text with
      | 'n' :: 'u' :: 'l' :: 'l' :: rest => passRest? fuel enclosing rest
      | 't' :: 'r' :: 'u' :: 'e' :: rest => passRest? fuel enclosing rest
      | 'f' :: 'a' :: 'l' :: 's' :: 'e' :: rest => passRest? fuel enclosing rest
      | '"' :: rest => passString? rest >>= passRest? fuel enclosing
      | '[' :: rest =>
          match skipSpace rest with
          | ']' :: rest => passRest? fuel enclosing rest
          | rest => passValue? fuel (.array :: enclosing) rest
      | '\x7b' :: rest =>
          match skipSpace rest with
          | '\x7d' :: rest => passRest? fuel enclosing rest
          | rest => passMember? fuel (.object :: enclosing) rest
      | '-' :: rest => (readNumeral? rest).map Prod.snd >>= passRest? fuel enclosing
      | rest => (readNumeral? rest).map Prod.snd >>= passRest? fuel enclosing

/-- The text after a member of an object and after all that encloses it. -/
def passMember? : (fuel : Nat) → List Enclosure → List Char → Option (List Char)
  | 0, _, _ => none
  | fuel + 1, enclosing, text =>
      match skipSpace text with
      | '"' :: rest =>
          match (passString? rest).map skipSpace with
          | some (':' :: rest) => passValue? fuel enclosing rest
          | _ => none
      | _ => none

/-- The text after what follows a value in all that encloses it. -/
def passRest? : (fuel : Nat) → List Enclosure → List Char → Option (List Char)
  | 0, _, _ => none
  | _ + 1, [], text => some text
  | fuel + 1, .array :: outer, text =>
      match skipSpace text with
      | ',' :: rest => passValue? fuel (.array :: outer) rest
      | ']' :: rest => passRest? fuel outer rest
      | _ => none
  | fuel + 1, .object :: outer, text =>
      match skipSpace text with
      | ',' :: rest => passMember? fuel (.object :: outer) rest
      | '\x7d' :: rest => passRest? fuel outer rest
      | _ => none

end

/-- The wanted members of an object from one of its members on, and the text
after the object. -/
def readWanted? (isWanted : String → Bool) :
    (fuel : Nat) → List (String × Json) → List Char → Option (List (String × Json) × List Char)
  | 0, _, _ => none
  | fuel + 1, done, text =>
      match skipSpace text with
      | '"' :: rest => do
          let (name, rest) ← readString? fuel [] rest
          match skipSpace rest with
          | ':' :: rest =>
              let (done, rest) ←
                if isWanted name then
                  (readValue? fuel nestingLimit rest).map fun (value, after) =>
                    ((name, value) :: done, after)
                else (passValue? fuel [] rest).map fun after => (done, after)
              match skipSpace rest with
              | ',' :: rest => readWanted? isWanted fuel done rest
              | '\x7d' :: rest => some (done.reverse, rest)
              | _ => none
          | _ => none
      | _ => none

/-- A record with its wanted members, or another value, and the text after it. -/
def readRecord? (isWanted : String → Bool) (fuel : Nat) (text : List Char) :
    Option (Json × List Char) :=
  match skipSpace text with
  | '\x7b' :: rest =>
      match skipSpace rest with
      | '\x7d' :: rest => some (.object [], rest)
      | rest =>
          (readWanted? isWanted fuel [] rest).map fun (members, after) => (.object members, after)
  | text => readValue? fuel nestingLimit text

/-- The records of an array from one of them on, and the text after the array. -/
def readItemRecords? (isWanted : String → Bool) :
    (fuel : Nat) → List Json → List Char → Option (List Json × List Char)
  | 0, _, _ => none
  | fuel + 1, done, text =>
      match readRecord? isWanted fuel text with
      | none => none
      | some (record, rest) =>
          match skipSpace rest with
          | ',' :: rest => readItemRecords? isWanted fuel (record :: done) rest
          | ']' :: rest => some ((record :: done).reverse, rest)
          | _ => none

/-- The records that a text denotes, each with its wanted members, if the text
is a JSON array. -/
def readRecords? (isWanted : String → Bool) (text : String) : Option (List Json) :=
  let characters := text.toList
  let fuel := 3 * characters.length + 3
  let records :=
    match skipSpace characters with
    | '[' :: rest =>
        match skipSpace rest with
        | ']' :: rest => some ([], rest)
        | rest => readItemRecords? isWanted fuel [] rest
    | _ => none
  match records with
  | some (items, rest) => if (skipSpace rest).isEmpty then some items else none
  | none => none

end TaskBoard.Json
