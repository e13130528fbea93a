import Marginalia.Text.Basic
import Marginalia.Text.Numeral
import Marginalia.Text.Quoted

/-!
# Text as bytes

Every character is one to four bytes.  The first of them tells how many follow and bounds the second
one, which excludes spellings that are too long and code points that are no characters.  When bytes
do not fit, the longest beginning of a character is one fault, and reading goes on after it.
-/

namespace Marginalia

namespace Utf8

/-- The bytes of a character. -/
def encodeChar (char : Char) : List Nat :=
  let code := char.toNat
  if code < 0x80 then [code]
  else if code < 0x800 then [0xC0 + code / 0x40, 0x80 + code % 0x40]
  else if code < 0x10000 then
    [0xE0 + code / 0x1000, 0x80 + code / 0x40 % 0x40, 0x80 + code % 0x40]
  else
    [0xF0 + code / 0x40000, 0x80 + code / 0x1000 % 0x40, 0x80 + code / 0x40 % 0x40,
      0x80 + code % 0x40]

/-- The bytes of a text. -/
def encode (text : Text) : List Nat :=
  text.flatMap encodeChar

/-- What the first byte of a character announces. -/
structure Lead where
  /-- How many bytes follow. -/
  count : Nat
  /-- The least second byte. -/
  low : Nat
  /-- The greatest second byte. -/
  high : Nat
  /-- The bits that the first byte contributes. -/
  bits : Nat

/-- What a first byte announces, when a character can begin with it. -/
def lead? (byte : Nat) : Option Lead :=
  if byte < 0x80 then some ⟨0, 0x80, 0xBF, byte⟩
  else if byte < 0xC2 then none
  else if byte < 0xE0 then some ⟨1, 0x80, 0xBF, byte - 0xC0⟩
  else if byte = 0xE0 then some ⟨2, 0xA0, 0xBF, 0⟩
  else if byte = 0xED then some ⟨2, 0x80, 0x9F, 0xD⟩
  else if byte < 0xF0 then some ⟨2, 0x80, 0xBF, byte - 0xE0⟩
  else if byte = 0xF0 then some ⟨3, 0x90, 0xBF, 0⟩
  else if byte < 0xF4 then some ⟨3, 0x80, 0xBF, byte - 0xF0⟩
  else if byte = 0xF4 then some ⟨3, 0x80, 0x8F, 4⟩
  else none

/-- Why bytes are no character. -/
inductive Cause where
  /-- No character begins so. -/
  | start
  /-- The character does not go on so. -/
  | continuation
  /-- The bytes end before the character does. -/
  | ending
deriving DecidableEq, Repr

/-- A cause in words. -/
def Cause.wording : Cause → Text
  | .start => "invalid start byte".toList
  | .continuation => "invalid continuation byte".toList
  | .ending => "unexpected end of data".toList

/-- What stands at the head of bytes: a character or a fault, with the number of its bytes. -/
inductive Piece where
  /-- A character. -/
  | char (char : Char) (length : Nat)
  /-- No character. -/
  | fault (cause : Cause) (length : Nat)
deriving DecidableEq, Repr

/-- The number of bytes of a piece. -/
def Piece.length : Piece → Nat
  | .char _ length => length
  | .fault _ length => length

/-- Read the rest of a character, of which `taken` bytes are read, whose next byte is bounded and
whose bits so far have the value `code`. -/
def readTail (taken : Nat) : Nat → Nat → Nat → Nat → List Nat → Piece
  | 0, _, _, code, _ => .char (Char.ofNat code) taken
  | _ + 1, _, _, _, [] => .fault .ending taken
  | count + 1, low, high, code, byte :: bytes =>
      if low ≤ byte && byte ≤ high then
        readTail (taken + 1) count 0x80 0xBF (code * 0x40 + (byte - 0x80)) bytes
      else .fault .continuation taken

/-- The piece that begins with a byte. -/
def readPiece (byte : Nat) (bytes : List Nat) : Piece :=
  match lead? byte with
  | none => .fault .start 1
  | some lead => readTail 1 lead.count lead.low lead.high lead.bits bytes

/-- The pieces of bytes.  While `skip` is positive, bytes of a piece are being passed over. -/
def pieces (skip : Nat) : List Nat → List Piece
  | [] => []
  | byte :: bytes =>
      match skip with
      | skip + 1 => pieces skip bytes
      | 0 =>
          let piece := readPiece byte bytes
          piece :: pieces (piece.length - 1) bytes

/-- The text of bytes, with a replacement character for each fault. -/
def decodeLenient (bytes : List Nat) : Text :=
  (pieces 0 bytes).map fun piece =>
    match piece with
    | .char char _ => char
    | .fault _ _ => '\ufffd'

/-- Why bytes are no text. -/
structure Fault where
  /-- The number of bytes before the fault. -/
  position : Nat
  /-- The bytes that make no character. -/
  bytes : List Nat
  /-- What is wrong with them. -/
  cause : Cause
deriving DecidableEq, Repr

/-- The message of a fault. -/
def Fault.message (fault : Fault) : Text :=
  "'utf-8' codec can't decode ".toList ++
    (match fault.bytes with
    | [byte] =>
        "byte 0x".toList ++ Text.hexadecimal 2 byte ++ " in position ".toList ++
          Text.ofInteger fault.position
    | bytes =>
        "bytes in position ".toList ++ Text.ofInteger fault.position ++ '-' ::
          Text.ofInteger (fault.position + bytes.length - 1 : Nat)) ++
    ": ".toList ++ fault.cause.wording

/-- The text of pieces, of which the first begins at a position. -/
def joinPieces (bytes : List Nat) (position : Nat) : List Piece → Except Fault Text
  | [] => .ok []
  | .char char length :: pieces =>
      (joinPieces bytes (position + length) pieces).map (char :: ·)
  | .fault cause length :: _ => .error ⟨position, (bytes.drop position).take length, cause⟩

/-- The text of bytes. -/
def decode (bytes : List Nat) : Except Fault Text :=
  joinPieces bytes 0 (pieces 0 bytes)

end Utf8

end Marginalia
