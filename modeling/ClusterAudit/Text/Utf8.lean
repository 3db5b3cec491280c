import ClusterAudit.Text.Quoted

/-!
# UTF-8

Bytes are read as text character by character.  A leading byte says how many bytes follow it and in
which range the first of them lies, so that no character has two forms and no surrogate has any.
The first byte that fits nowhere ends the reading with a fault that names the bytes read in vain.
-/

namespace ClusterAudit.Text

/-- Why a byte sequence is not text. -/
inductive DecodingFault where
  /-- A byte starts no character. -/
  | invalidStart (position byte : Nat)
  /-- The bytes of an unfinished character are followed by one that does not go on with it. -/
  | invalidContinuation (first last byte : Nat)
  /-- The bytes end inside a character. -/
  | unexpectedEnd (first last byte : Nat)
deriving DecidableEq, Repr

namespace DecodingFault

/-- The place of the offending bytes; the byte itself is shown when it stands alone. -/
def place (first last byte : Nat) : String :=
  if first = last then
    "byte 0x" ++ hexadecimal 2 byte ++ " in position " ++ toString first
  else "bytes in position " ++ toString first ++ "-" ++ toString last

def message : DecodingFault → String
  | invalidStart position byte =>
    "'utf-8' codec can't decode " ++ place position position byte ++ ": invalid start byte"
  | invalidContinuation first last byte =>
    "'utf-8' codec can't decode " ++ place first last byte ++ ": invalid continuation byte"
  | unexpectedEnd first last byte =>
    "'utf-8' codec can't decode " ++ place first last byte ++ ": unexpected end of data"

end DecodingFault

namespace Utf8

/-- A character of which some bytes were read. -/
structure Unfinished where
  /-- The leading byte and its position. -/
  lead : Nat
  start : Nat
  /-- How many bytes were read. -/
  read : Nat
  /-- The bits read so far. -/
  bits : Nat
  /-- How many bytes are to follow. -/
  left : Nat
  /-- The range of the next byte. -/
  low : Nat
  high : Nat
deriving DecidableEq, Repr

/-- What a leading byte of several bytes starts: the number of bytes that follow, the bits of the
leading byte, and the range of the byte after it. -/
def lead? (byte : Nat) : Option (Nat × Nat × Nat × Nat) :=
  if 0xc2 ≤ byte && byte ≤ 0xdf then some (1, byte - 0xc0, 0x80, 0xbf)
  else if byte = 0xe0 then some (2, 0, 0xa0, 0xbf)
  else if byte = 0xed then some (2, 0xd, 0x80, 0x9f)
  else if 0xe1 ≤ byte && byte ≤ 0xef then some (2, byte - 0xe0, 0x80, 0xbf)
  else if byte = 0xf0 then some (3, 0, 0x90, 0xbf)
  else if 0xf1 ≤ byte && byte ≤ 0xf3 then some (3, byte - 0xf0, 0x80, 0xbf)
  else if byte = 0xf4 then some (3, 4, 0x80, 0x8f)
  else none

/-- Reads bytes from a position on; `before` holds the characters read so far, the last one first.
The positions of a character that the bytes leave unfinished are counted from its leading byte. -/
def decodeFrom (before : List Char) (position : Nat) (unfinished : Option Unfinished) :
    List UInt8 → Except DecodingFault (List Char)
  | [] =>
    match unfinished with
    | none => .ok before.reverse
    | some part => .error (.unexpectedEnd 0 (part.read - 1) part.lead)
  | byte :: rest =>
    let b := byte.toNat
    match unfinished with
    | none =>
      if b < 0x80 then decodeFrom (Char.ofNat b :: before) (position + 1) none rest
      else
        match lead? b with
        | none => .error (.invalidStart position b)
        | some (left, bits, low, high) =>
          decodeFrom before (position + 1) (some ⟨b, position, 1, bits, left, low, high⟩) rest
    | some part =>
      if part.low ≤ b && b ≤ part.high then
        let bits := part.bits * 64 + (b - 0x80)
        if part.left ≤ 1 then decodeFrom (Char.ofNat bits :: before) (position + 1) none rest
        else
          decodeFrom before (position + 1)
            (some { part with
              read := part.read + 1, bits, left := part.left - 1, low := 0x80, high := 0xbf }) rest
      else .error (.invalidContinuation part.start (part.start + part.read - 1) part.lead)

def decode (bytes : List UInt8) : Except DecodingFault (List Char) :=
  decodeFrom [] 0 none bytes

end Utf8

/-- The characters with every line end, be it a line feed, a carriage return or both, written as a
line feed. -/
def withLineFeeds : List Char → List Char
  | [] => []
  | '\r' :: '\n' :: rest => '\n' :: withLineFeeds rest
  | '\r' :: rest => '\n' :: withLineFeeds rest
  | c :: rest => c :: withLineFeeds rest

end ClusterAudit.Text
