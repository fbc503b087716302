import TaskBoard.Settings.Toml.Node
import TaskBoard.Settings.Toml.Quoted
import TaskBoard.Settings.Toml.Scalar

/-!
# TOML documents

A document is a series of lines: headers, which open a table, and keys with
values, which are defined in the table that is open.  Keys may be dotted, and
values may be lists and inline tables.  The names of a key and the levels of a
value are fewer than eighty.
-/

namespace TaskBoard.Settings.Toml

/-- The number that the names of a key and the levels of a value stay below. -/
def depthLimit : Nat := 80

/-- A character of a key without quotation marks. -/
def isBare (character : Char) : Bool :=
  character.isAlphanum || character == '_' || character == '-'

/-- One name of a key, and the text after it. -/
def readName? (text : List Char) : Option (String × List Char) :=
  let name := text.takeWhile isBare
  if name.isEmpty then readShort? text else some (String.ofList name, text.drop name.length)

/-- The names of a dotted key, and the text after it without leading blanks. -/
def readNames? : (fuel : Nat) → List Char → Option (List String × List Char)
  | 0, _ => none
  | fuel + 1, text => do
      let (name, rest) ← readName? (skipBlank text)
      match skipBlank rest with
      | '.' :: rest =>
          let (names, rest) ← readNames? fuel rest
          return (name :: names, rest)
      | rest => return ([name], rest)

/-- A dotted key, and the text after it without leading blanks. -/
def readKey? (text : List Char) : Option (List String × List Char) :=
  (readNames? (text.length + 1) text).filter fun key => key.1.length < depthLimit

/-- The text after a comment, which ends in front of a control character. -/
def skipComment (text : List Char) : List Char :=
  text.dropWhile fun character => !Escape.isControl character

/-- The text after the rest of a line, which holds nothing but a comment. -/
def afterLine? (text : List Char) : Option (List Char) :=
  let rest :=
    match skipBlank text with
    | '#' :: comment => skipComment comment
    | rest => rest
  match rest with
  | [] => some []
  | rest => afterBreak? rest

/-- The text without leading blanks, line breaks and comments; a comment ends
with a line break. -/
def skipLines? : (fuel : Nat) → List Char → Option (List Char)
  | 0, _ => none
  | fuel + 1, text =>
      match skipBlank text with
      | '#' :: comment => afterBreak? (skipComment comment) >>= skipLines? fuel
      | '\n' :: rest => skipLines? fuel rest
      | '\r' :: rest => afterBreak? ('\r' :: rest) >>= skipLines? fuel
      | rest => some rest

mutual

/-- A value, and the text after it.  `depth` levels are left. -/
def readValue? : (fuel depth : Nat) → List Char → Option (Source × List Char)
  | 0, _, _ => none
  | fuel + 1, depth, text =>
      match text with
      | '"' :: _ => (readString? text).map fun (value, after) => (.text value, after)
      | '\x27' :: _ => (readString? text).map fun (value, after) => (.text value, after)
      | '[' :: rest =>
          match depth with
          | 0 => none
          | depth + 1 =>
              (readItems? fuel depth [] rest).map fun (items, after) => (.list items, after)
      | '\x7b' :: rest =>
          match depth with
          | 0 => none
          | depth + 1 =>
              match skipBlank rest with
              | '\x7d' :: rest => some (.table [], rest)
              | rest =>
                  (readEntries? fuel depth [] rest).map fun (entries, after) =>
                    (.table (Node.toEntries entries), after)
      | text => readWord? text

/-- The items of a list behind those that were read, and the text after it. -/
def readItems? : (fuel depth : Nat) → List Source → List Char →
    Option (List Source × List Char)
  | 0, _, _, _ => none
  | fuel + 1, depth, done, text =>
      match skipLines? (text.length + 1) text with
      | none => none
      | some (']' :: rest) => some (done.reverse, rest)
      | some text => do
          let (item, rest) ← readValue? fuel depth text
          match ← skipLines? (rest.length + 1) rest with
          | ',' :: rest => readItems? fuel depth (item :: done) rest
          | ']' :: rest => some ((item :: done).reverse, rest)
          | _ => none

/-- The entries of an inline table behind those that were read, and the text after it. -/
def readEntries? : (fuel depth : Nat) → Entries → List Char → Option (Entries × List Char)
  | 0, _, _, _ => none
  | fuel + 1, depth, done, text => do
      let (key, rest) ← readKey? text
      match rest with
      | '=' :: rest =>
          let (value, rest) ← readValue? fuel depth (skipBlank rest)
          let done ← Node.define value key done
          match skipBlank rest with
          | ',' :: rest => readEntries? fuel depth done rest
          | '\x7d' :: rest => some (done, rest)
          | _ => none
      | _ => none

end

/-- A document that is being read: its entries and the path of the open table. -/
structure Document where
  entries : Entries
  path : List String
  deriving Inhabited

namespace Document

/-- Open a table by its header. -/
def openTable? (document : Document) (path : List String) : Option Document :=
  (Node.openTable path document.entries).map fun entries => { document with entries, path }

/-- Open one more table by a header in double brackets. -/
def appendTable? (document : Document) (path : List String) : Option Document :=
  (Node.appendTable path document.entries).map fun entries => { document with entries, path }

/-- Define a key in the open table. -/
def define? (document : Document) (key : List String) (value : Source) : Option Document :=
  (Node.defineAt value key document.path document.entries).map fun entries =>
    { document with entries }

/-- Read one line of a document; the text after it is left. -/
def readLine? (document : Document) (text : List Char) : Option (Document × List Char) :=
  match skipBlank text with
  | '[' :: '[' :: rest => do
      let (path, rest) ← readKey? rest
      match rest with
      | ']' :: ']' :: rest => return (← document.appendTable? path, ← afterLine? rest)
      | _ => none
  | '[' :: rest => do
      let (path, rest) ← readKey? rest
      match rest with
      | ']' :: rest => return (← document.openTable? path, ← afterLine? rest)
      | _ => none
  | text =>
      match afterLine? text with
      | some rest => some (document, rest)
      | none => do
          let (key, rest) ← readKey? text
          match rest with
          | '=' :: rest =>
              let (value, rest) ←
                readValue? (2 * rest.length + 2) (depthLimit - 1) (skipBlank rest)
              return (← document.define? key value, ← afterLine? rest)
          | _ => none

/-- Read the lines of a document. -/
def readLines? : (fuel : Nat) → Document → List Char → Option Document
  | _, document, [] => some document
  | 0, _, _ => none
  | fuel + 1, document, text => do
      let (document, rest) ← document.readLine? text
      readLines? fuel document rest

end Document

/-- The text without the mark of its byte order. -/
def withoutByteOrder : List Char → List Char
  | '\ufeff' :: rest => rest
  | text => text

/-- The source that a document denotes, if it is TOML. -/
def read? (text : String) : Option Source :=
  let characters := withoutByteOrder text.toList
  (Document.readLines? (characters.length + 1) ⟨[], []⟩ characters).map fun document =>
    .table (Node.toEntries document.entries)

end TaskBoard.Settings.Toml
