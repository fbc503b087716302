import TaskBoard.Text.Blank
import TaskBoard.Time.Calendar
import TaskBoard.Time.Moment

/-!
# Moments in text

The text of a moment is a date, a `T`, a time of day and `Z`, as RFC 3339 lays
down.  Reading is more lenient than writing: blanks may stand around the parts
of the date and of the time, a space may stand for the `T`, numbers may have
fewer digits, and the time may be given with an offset from UTC.
-/

namespace TaskBoard.Rfc3339

open Text (dropBlank isBlank)

/-- Why a text is not a moment. -/
inductive ReadError where
  /-- A part lies outside its range, or the date does not exist. -/
  | outOfRange
  /-- The offset leads out of the calendar. -/
  | impossible
  /-- A character stands where it cannot stand. -/
  | badCharacter
  | tooShort
  | tooLong
  deriving DecidableEq, Repr

/-- The text that reports a bad moment. -/
def ReadError.message : ReadError → String
  | .outOfRange => "input is out of range"
  | .impossible => "no possible date and time matching input"
  | .badCharacter => "input contains invalid characters"
  | .tooShort => "premature end of input"
  | .tooLong => "trailing input"

/-- The value of decimal digits. -/
def digitsValue (digits : List Char) : Nat :=
  digits.foldl (fun value digit => value * 10 + (digit.toNat - 48)) 0

/-- A number made of the decimal digits at the beginning of the text, and the
text after it; at most `width` of the characters are considered. -/
def readNumber (width : Nat) (text : List Char) : Except ReadError (Nat × List Char) :=
  let digits := (text.take width).takeWhile Char.isDigit
  if text.isEmpty then .error .tooShort
  else if digits.isEmpty then .error .badCharacter
  else .ok (digitsValue digits, text.drop digits.length)

/-- A number of at most two digits within bounds, after optional blanks. -/
def readPart (least greatest : Nat) (text : List Char) : Except ReadError (Nat × List Char) :=
  match readNumber 2 (dropBlank text) with
  | .error cause => .error cause
  | .ok (number, rest) =>
      if least ≤ number ∧ number ≤ greatest then .ok (number, rest) else .error .outOfRange

/-- A year of thirty-two bits: four digits at most, or a sign and any number of digits. -/
def readYear (text : List Char) : Except ReadError (Int × List Char) :=
  let bounded (sign : Int) : Nat × List Char → Except ReadError (Int × List Char)
    | (number, rest) =>
        let year := sign * number
        if -2147483648 ≤ year ∧ year ≤ 2147483647 then .ok (year, rest) else .error .outOfRange
  match dropBlank text with
  | '-' :: rest => readNumber rest.length rest >>= bounded (-1)
  | '+' :: rest => readNumber rest.length rest >>= bounded 1
  | rest => readNumber 4 rest >>= bounded 1

/-- Skip one given character after optional blanks. -/
def skipMark (mark : Char) (text : List Char) : Except ReadError (List Char) :=
  match dropBlank text with
  | [] => .error .tooShort
  | character :: rest => if character = mark then .ok rest else .error .badCharacter

/-- The mark between date and time. -/
def skipDivider : List Char → Except ReadError (List Char)
  | [] => .error .tooShort
  | character :: rest =>
      if character = 'T' ∨ character = 't' ∨ character = ' ' then .ok rest
      else .error .badCharacter

/-- The nanoseconds that a point and digits denote; digits after the ninth are skipped. -/
def readFraction : List Char → Except ReadError (Nat × List Char)
  | '.' :: rest =>
      match readNumber 9 rest with
      | .error cause => .error cause
      | .ok (number, after) =>
          .ok (number * Nat.pow 10 (9 - (rest.length - after.length)),
            after.dropWhile Char.isDigit)
  | text => .ok (0, text)

/-- Two digits, of which the first is at most `greatest`, as a number. -/
def readPair (greatest : Char) : List Char → Except ReadError (Nat × List Char)
  | [] => .error .tooShort
  | [character] => .error (if character.toNat < 128 then .tooShort else .badCharacter)
  | tens :: ones :: rest =>
      if tens.isDigit ∧ ones.isDigit then
        if tens ≤ greatest then .ok (digitsValue [tens, ones], rest) else .error .outOfRange
      else .error .badCharacter

/-- Hours and minutes of an offset, as seconds. -/
def readOffsetSize (text : List Char) : Except ReadError (Int × List Char) :=
  match readPair '9' text with
  | .error cause => .error cause
  | .ok (hours, rest) =>
      match readPair '5' (rest.dropWhile fun character => character == ':' || isBlank character) with
      | .error cause => .error cause
      | .ok (minutes, rest) => .ok ((hours * 3600 + minutes * 60 : Nat), rest)

/-- The offset from UTC in seconds: `UTC`, `Z`, or a sign with hours and minutes. -/
def readOffset (text : List Char) : Except ReadError (Int × List Char) :=
  if (text.take 3).map Char.toLower = ['u', 't', 'c'] then .ok (0, text.drop 3)
  else
    match text with
    | [] => .error .tooShort
    | 'Z' :: rest => .ok (0, rest)
    | 'z' :: rest => .ok (0, rest)
    | '+' :: rest => readOffsetSize rest
    | '-' :: rest => (readOffsetSize rest).map fun (size, after) => (-size, after)
    | '−' :: rest => (readOffsetSize rest).map fun (size, after) => (-size, after)
    | _ => .error .badCharacter

/-- The parts of a moment as they are written. -/
structure Parts where
  date : Date
  hour : Nat
  minute : Nat
  /-- Sixty during a leap second. -/
  second : Nat
  nanos : Nat
  offset : Int
  deriving Repr

/-- The parts of a text from left to right. -/
def readParts (text : List Char) : Except ReadError Parts := do
  let (year, text) ← readYear text
  let text ← skipMark '-' text
  let (month, text) ← readPart 1 12 text
  let text ← skipMark '-' text
  let (day, text) ← readPart 1 31 text
  let text ← skipDivider text
  let (hour, text) ← readPart 0 23 text
  let text ← skipMark ':' text
  let (minute, text) ← readPart 0 59 text
  let text ← skipMark ':' text
  let (second, text) ← readPart 0 60 text
  let (nanos, text) ← readFraction text
  let (offset, text) ← readOffset (dropBlank text)
  if (dropBlank text).isEmpty then
    return ⟨⟨year, month, day⟩, hour, minute, second, nanos, offset⟩
  else throw .tooLong

/-- The moment that the parts denote. -/
def Parts.toMoment (parts : Parts) : Except ReadError Moment :=
  if parts.date.Exists ∧ parts.offset.natAbs < 86400 then
    let (second, nanos) :=
      if parts.second = 60 then (59, parts.nanos + 1000000000) else (parts.second, parts.nanos)
    let time := parts.hour * 3600 + parts.minute * 60 + second
    match Moment.of? (parts.date.toDays * 86400 + (time : Int) - parts.offset) nanos with
    | some moment => .ok moment
    | none => .error .impossible
  else .error .outOfRange

/-- The moment that a text denotes. -/
def read (text : String) : Except ReadError Moment := readParts text.toList >>= Parts.toMoment

/-- A number with leading zeros up to a width. -/
def padded (width number : Nat) : String :=
  let digits := Nat.toDigits 10 number
  String.ofList (List.replicate (width - digits.length) '0' ++ digits)

/-- A year with four digits, and with a sign outside 0 to 9999. -/
def yearText (year : Int) : String :=
  if 0 ≤ year ∧ year ≤ 9999 then padded 4 year.toNat
  else (if year < 0 then "-" else "+") ++ padded 4 year.natAbs

/-- The fraction of a second in the fewest groups of three digits, if there is one. -/
def fractionText (nanos : Nat) : String :=
  if nanos = 0 then ""
  else if nanos % 1000000 = 0 then "." ++ padded 3 (nanos / 1000000)
  else if nanos % 1000 = 0 then "." ++ padded 6 (nanos / 1000)
  else "." ++ padded 9 nanos

/-- The text of a moment in UTC. -/
def write (moment : Moment) : String :=
  let date := Date.ofDays (moment.seconds / 86400)
  let time := (moment.seconds % 86400).toNat
  let (extra, nanos) :=
    if moment.nanos < 1000000000 then (0, moment.nanos) else (1, moment.nanos - 1000000000)
  yearText date.year ++ "-" ++ padded 2 date.month ++ "-" ++ padded 2 date.day ++ "T" ++
    padded 2 (time / 3600) ++ ":" ++ padded 2 (time / 60 % 60) ++ ":" ++
    padded 2 (time % 60 + extra) ++ fractionText nanos ++ "Z"

end TaskBoard.Rfc3339
