import TaskBoard.Text.Numeral
import TaskBoard.Text.Utf8

/-!
# Texts as hexadecimal bytes

A text may be given as the bytes of its UTF-8 encoding, two hexadecimal digits a
byte.  The first digit of a pair may be a plus sign, as in every numeral.
-/

namespace TaskBoard.Text

/-- Why hexadecimal digits do not spell a text. -/
inductive HexError where
  | oddLength
  /-- The two characters at an offset are not a byte. -/
  | badPair (offset : Nat)
  | badText (cause : Utf8Error)
  deriving DecidableEq, Repr

/-- The text that reports bad hexadecimal digits. -/
def HexError.message : HexError → String
  | .oddLength => "odd-length hex string"
  | .badPair offset => s!"bad hex at offset {offset}"
  | .badText cause => cause.message

/-- The byte that a pair of characters denotes. -/
def readByte? (first second : Char) : Option Nat :=
  (readNatural 16 255 [first, second]).toOption

/-- The bytes that pairs of characters denote, from an offset on. -/
def readBytes : (offset : Nat) → List Char → Except HexError (List Nat)
  | _, [] => .ok []
  | offset, [_] => .error (.badPair offset)
  | offset, first :: second :: rest =>
      match readByte? first second with
      | none => .error (.badPair offset)
      | some byte =>
          match readBytes (offset + 2) rest with
          | .error cause => .error cause
          | .ok bytes => .ok (byte :: bytes)

/-- The text that hexadecimal digits spell. -/
def readHex (digits : List Char) : Except HexError (List Char) :=
  if byteLength digits % 2 = 1 then .error .oddLength
  else
    match readBytes 0 digits with
    | .error cause => .error cause
    | .ok bytes =>
        match decode bytes with
        | .error cause => .error (.badText cause)
        | .ok characters => .ok characters

end TaskBoard.Text
