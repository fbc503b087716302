/-!
# UTF-8

Byte offsets into a text, and decoding of bytes with the position and length of
the first malformed sequence.
-/

namespace TaskBoard.Text

/-- The number of bytes that encode the characters. -/
def byteLength (characters : List Char) : Nat :=
  (characters.map Char.utf8Size).foldr (· + ·) 0

/-- The characters from a byte offset on, if the offset is the boundary of a character. -/
def dropBytes? : List Char → Nat → Option (List Char)
  | characters, 0 => some characters
  | [], _ + 1 => none
  | character :: rest, offset + 1 =>
      if character.utf8Size ≤ offset + 1 then
        dropBytes? rest (offset + 1 - character.utf8Size)
      else none

/-- The characters between two byte offsets, if both are boundaries of characters
and the second is not before the first. -/
def sliceBytes? (characters : List Char) (start stop : Nat) : Option (List Char) :=
  if start ≤ stop then do
    let behindStart ← dropBytes? characters start
    let behindStop ← dropBytes? characters stop
    return behindStart.take (behindStart.length - behindStop.length)
  else none

@[simp] theorem byteLength_nil : byteLength [] = 0 := rfl

@[simp] theorem byteLength_cons (character : Char) (rest : List Char) :
    byteLength (character :: rest) = character.utf8Size + byteLength rest := rfl

@[simp] theorem byteLength_append (left right : List Char) :
    byteLength (left ++ right) = byteLength left + byteLength right := by
  induction left with
  | nil => simp
  | cons character rest ih => simp [ih, Nat.add_assoc]

/-- Only the empty text has no bytes. -/
theorem byteLength_pos {characters : List Char} : 0 < byteLength characters ↔ characters ≠ [] := by
  cases characters with
  | nil => simp
  | cons character rest =>
      have := character.utf8Size_pos
      simp
      omega

@[simp] theorem dropBytes?_zero (characters : List Char) :
    dropBytes? characters 0 = some characters := by
  cases characters <;> rfl

theorem dropBytes?_cons_of_pos (character : Char) (rest : List Char) {offset : Nat}
    (behind : 0 < offset) :
    dropBytes? (character :: rest) offset =
      if character.utf8Size ≤ offset then dropBytes? rest (offset - character.utf8Size)
      else none := by
  cases offset with
  | zero => contradiction
  | succ offset => rfl

@[simp] theorem dropBytes?_append (front rest : List Char) :
    dropBytes? (front ++ rest) (byteLength front) = some rest := by
  induction front with
  | nil => simp
  | cons character front ih =>
      have behind : 0 < byteLength (character :: front) := byteLength_pos.mpr (by simp)
      rw [List.cons_append, dropBytes?_cons_of_pos character _ behind, byteLength_cons,
        if_pos (Nat.le_add_right _ _), Nat.add_sub_cancel_left, ih]

/-- The byte lengths of the beginnings of a text are the boundaries of its characters. -/
theorem dropBytes?_eq_some_iff {characters rest : List Char} {offset : Nat} :
    dropBytes? characters offset = some rest ↔
      ∃ front, characters = front ++ rest ∧ byteLength front = offset := by
  constructor
  · intro dropped
    induction characters generalizing offset with
    | nil =>
        cases offset with
        | zero => exact ⟨[], Option.some.inj dropped, rfl⟩
        | succ offset => cases dropped
    | cons character characters ih =>
        rcases Nat.eq_zero_or_pos offset with rfl | behind
        · exact ⟨[], Option.some.inj dropped, rfl⟩
        · rw [dropBytes?_cons_of_pos character _ behind] at dropped
          split at dropped
          · obtain ⟨front, rfl, length⟩ := ih dropped
            refine ⟨character :: front, rfl, ?_⟩
            rw [byteLength_cons]
            omega
          · cases dropped
  · rintro ⟨front, rfl, rfl⟩
    exact dropBytes?_append front rest

/-- A piece of a text is what lies between its offsets. -/
theorem sliceBytes?_append (front piece rest : List Char) :
    sliceBytes? (front ++ (piece ++ rest)) (byteLength front)
      (byteLength front + byteLength piece) = some piece := by
  have behindPiece : dropBytes? (front ++ (piece ++ rest))
      (byteLength front + byteLength piece) = some rest := by
    rw [← byteLength_append, ← List.append_assoc, dropBytes?_append]
  simp [sliceBytes?, behindPiece]

/-- The bytes that encode a character. -/
def encodeChar (character : Char) : List Nat :=
  let code := character.toNat
  if code < 0x80 then [code]
  else if code < 0x800 then [0xC0 + code / 0x40, 0x80 + code % 0x40]
  else if code < 0x10000 then
    [0xE0 + code / 0x1000, 0x80 + code / 0x40 % 0x40, 0x80 + code % 0x40]
  else
    [0xF0 + code / 0x40000, 0x80 + code / 0x1000 % 0x40, 0x80 + code / 0x40 % 0x40,
      0x80 + code % 0x40]

/-- The bytes that encode the characters. -/
def encode (characters : List Char) : List Nat := characters.flatMap encodeChar

@[simp] theorem encode_cons (character : Char) (characters : List Char) :
    encode (character :: characters) = encodeChar character ++ encode characters :=
  List.flatMap_cons

/-- Why bytes are not the encoding of a text. -/
inductive Utf8Error where
  /-- The bytes at `index` begin no character; `length` of them belong to the attempt. -/
  | invalid (length : Nat) (index : Nat)
  /-- The bytes end inside the character that begins at `index`. -/
  | incomplete (index : Nat)
  deriving DecidableEq, Repr

/-- The text that reports malformed bytes. -/
def Utf8Error.message : Utf8Error → String
  | .invalid length index =>
      s!"invalid utf-8 sequence of {length} bytes from index {index}"
  | .incomplete index => s!"incomplete utf-8 byte sequence from index {index}"

/-- The range that the second byte must lie in after a given first byte; the
ranges leave out overlong forms, surrogates and what lies beyond the last plane. -/
def secondByteRange (first : Nat) : Nat × Nat :=
  if first = 0xE0 then (0xA0, 0xBF)
  else if first = 0xED then (0x80, 0x9F)
  else if first = 0xF0 then (0x90, 0xBF)
  else if first = 0xF4 then (0x80, 0x8F)
  else (0x80, 0xBF)

/-- How many bytes follow a first byte, if it begins a character. -/
def continuationCount? (first : Nat) : Option Nat :=
  if first < 0x80 then some 0
  else if 0xC2 ≤ first ∧ first ≤ 0xDF then some 1
  else if 0xE0 ≤ first ∧ first ≤ 0xEF then some 2
  else if 0xF0 ≤ first ∧ first ≤ 0xF4 then some 3
  else none

/-- The bits that a first byte contributes to the code point. -/
def leadBits (first : Nat) : Nat :=
  if first < 0x80 then first
  else if first < 0xE0 then first - 0xC0
  else if first < 0xF0 then first - 0xE0
  else first - 0xF0

/-- Read `count` more bytes of the character that begins at `index`; `done` bytes of it are read. -/
def decodeTail (index : Nat) :
    (count done code : Nat) → (low high : Nat) → List Nat → Except Utf8Error (Nat × List Nat)
  | 0, _, code, _, _, bytes => .ok (code, bytes)
  | _ + 1, _, _, _, _, [] => .error (.incomplete index)
  | count + 1, done, code, low, high, byte :: bytes =>
      if low ≤ byte ∧ byte ≤ high then
        decodeTail index count (done + 1) (code * 0x40 + (byte - 0x80)) 0x80 0xBF bytes
      else .error (.invalid done index)

/-- The first character of a non-empty list of bytes, and the bytes after it. -/
def decodeChar (index first : Nat) (bytes : List Nat) : Except Utf8Error (Char × List Nat) :=
  match continuationCount? first with
  | none => .error (.invalid 1 index)
  | some count =>
      let (low, high) := secondByteRange first
      match decodeTail index count 1 (leadBits first) low high bytes with
      | .ok (code, rest) => .ok (Char.ofNat code, rest)
      | .error cause => .error cause

/-- Decode the bytes from position `index` on; `fuel` bounds their number. -/
def decodeFrom : (fuel index : Nat) → List Nat → Except Utf8Error (List Char)
  | _, _, [] => .ok []
  | 0, _, _ :: _ => .ok []
  | fuel + 1, index, first :: bytes =>
      match decodeChar index first bytes with
      | .error cause => .error cause
      | .ok (character, rest) =>
          match decodeFrom fuel (index + (1 + bytes.length - rest.length)) rest with
          | .error cause => .error cause
          | .ok characters => .ok (character :: characters)

/-- The characters that bytes encode, or where the first malformed sequence is. -/
def decode (bytes : List Nat) : Except Utf8Error (List Char) := decodeFrom bytes.length 0 bytes

end TaskBoard.Text
