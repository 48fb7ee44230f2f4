import Keychart.Text.Basic

/-!
# UTF-8

Texts from bytes.  Reading a whole file stops at the first broken sequence and
says where it is; reading a terminal writes a replacement character for each
broken sequence and keeps an unfinished one for the next read.

A broken sequence reaches as far as its bytes could still have been the start of
a character.
-/

namespace Keychart.Text

/-- What the bytes at the front of a list are. -/
inductive Utf8Sequence where
  /-- A character and the number of its bytes. -/
  | scalar (c : Char) (length : Nat)
  /-- The bytes end within a character. -/
  | truncated (length : Nat)
  /-- No character starts with this byte. -/
  | badStart
  /-- A character that began ends in a byte that cannot continue it; the length
  is that of the bytes in front of it. -/
  | badContinuation (length : Nat)
deriving DecidableEq, Repr

/-- What the first byte of a character says: the bits it holds, the number of
bytes to come, and the bounds of the next one. -/
structure Utf8Lead where
  bits : Nat
  need : Nat
  low : Nat := 0x80
  high : Nat := 0xBF

/-- The lead that a byte beyond ASCII is, if a character can start with it. -/
def utf8Lead? (byte : Nat) : Option Utf8Lead :=
  if byte < 0xC2 then none
  else if byte < 0xE0 then some { bits := byte - 0xC0, need := 1 }
  else if byte < 0xF0 then
    some
      { bits := byte - 0xE0, need := 2,
        low := if byte = 0xE0 then 0xA0 else 0x80,
        high := if byte = 0xED then 0x9F else 0xBF }
  else if byte < 0xF5 then
    some
      { bits := byte - 0xF0, need := 3,
        low := if byte = 0xF0 then 0x90 else 0x80,
        high := if byte = 0xF4 then 0x8F else 0xBF }
  else none

/-- Reads the bytes that a character still needs. -/
def utf8Continue : (need bits low high length : Nat) → List UInt8 → Utf8Sequence
  | 0, bits, _, _, length, _ => .scalar (Char.ofNat bits) length
  | _ + 1, _, _, _, length, [] => .truncated length
  | need + 1, bits, low, high, length, b :: bytes =>
    if low ≤ b.toNat && b.toNat ≤ high then
      utf8Continue need (bits * 0x40 + (b.toNat - 0x80)) 0x80 0xBF (length + 1) bytes
    else .badContinuation length

def utf8Sequence (b : UInt8) (bytes : List UInt8) : Utf8Sequence :=
  if b.toNat < 0x80 then .scalar (Char.ofNat b.toNat) 1
  else
    match utf8Lead? b.toNat with
    | none => .badStart
    | some lead => utf8Continue lead.need lead.bits lead.low lead.high 1 bytes

/-- Why bytes are no text. -/
inductive Utf8Fault where
  | badStart
  | badContinuation
  | truncated
deriving DecidableEq, Repr

namespace Utf8Fault

def reason : Utf8Fault → Text
  | badStart => Text.ofString "invalid start byte"
  | badContinuation => Text.ofString "invalid continuation byte"
  | truncated => Text.ofString "unexpected end of data"

end Utf8Fault

/-- The first broken sequence: its first byte, the place of that, and the number
of its bytes. -/
structure Utf8Error where
  fault : Utf8Fault
  byte : Nat
  position : Nat
  length : Nat
deriving DecidableEq, Repr

def Utf8Error.message (e : Utf8Error) : Text :=
  Text.ofString "'utf-8' codec can't decode " ++
    (if e.length ≤ 1 then
      Text.ofString "byte 0x" ++ hexPadded 2 e.byte ++ Text.ofString " in position " ++
        ofNat e.position
    else
      Text.ofString "bytes in position " ++ ofNat e.position ++ '-' ::
        ofNat (e.position + e.length - 1)) ++
    ':' :: ' ' :: e.fault.reason

/-- Reads bytes of which the next `skip` belong to a character that is read
already. -/
def decodeFrom : (skip position : Nat) → List UInt8 → Except Utf8Error Text
  | _, _, [] => .ok []
  | skip + 1, position, _ :: bytes => decodeFrom skip (position + 1) bytes
  | 0, position, b :: bytes =>
    match utf8Sequence b bytes with
    | .scalar c length =>
      match decodeFrom (length - 1) (position + 1) bytes with
      | .ok text => .ok (c :: text)
      | .error e => .error e
    | .truncated length => .error ⟨.truncated, b.toNat, position, length⟩
    | .badStart => .error ⟨.badStart, b.toNat, position, 1⟩
    | .badContinuation length => .error ⟨.badContinuation, b.toNat, position, length⟩

/-- The text that bytes are, or the first broken sequence. -/
def decode (bytes : List UInt8) : Except Utf8Error Text := decodeFrom 0 0 bytes

/-- What stands for a broken sequence. -/
def replacementChar : Char := '\uFFFD'

/-- Whether the bytes at the end of a read are two of the three bytes that would
spell a surrogate.  They too wait for the third. -/
def isSurrogateStart (b : UInt8) : List UInt8 → Bool
  | [second] => b.toNat = 0xED && 0xA0 ≤ second.toNat && second.toNat ≤ 0xBF
  | _ => false

/-- The text of some bytes, of which the next `skip` are read already, and the
unfinished character at their end. -/
def decodeLossyFrom : (skip : Nat) → List UInt8 → Text × List UInt8
  | _, [] => ([], [])
  | skip + 1, _ :: bytes => decodeLossyFrom skip bytes
  | 0, b :: bytes =>
    match utf8Sequence b bytes with
    | .scalar c length =>
      let (text, tail) := decodeLossyFrom (length - 1) bytes
      (c :: text, tail)
    | .truncated _ => ([], b :: bytes)
    | .badStart =>
      let (text, tail) := decodeLossyFrom 0 bytes
      (replacementChar :: text, tail)
    | .badContinuation length =>
      if isSurrogateStart b bytes then ([], b :: bytes)
      else
        let (text, tail) := decodeLossyFrom (length - 1) bytes
        (replacementChar :: text, tail)

/-- The text of one read behind an unfinished character, and the unfinished
character at the end of the read. -/
def decodeRead (unfinished read : List UInt8) : Text × List UInt8 :=
  decodeLossyFrom 0 (unfinished ++ read)

def encodeChar (c : Char) : List UInt8 :=
  let code := c.toNat
  if code < 0x80 then [UInt8.ofNat code]
  else if code < 0x800 then
    [UInt8.ofNat (0xC0 + code / 0x40), UInt8.ofNat (0x80 + code % 0x40)]
  else if code < 0x10000 then
    [UInt8.ofNat (0xE0 + code / 0x1000), UInt8.ofNat (0x80 + code / 0x40 % 0x40),
     UInt8.ofNat (0x80 + code % 0x40)]
  else
    [UInt8.ofNat (0xF0 + code / 0x40000), UInt8.ofNat (0x80 + code / 0x1000 % 0x40),
     UInt8.ofNat (0x80 + code / 0x40 % 0x40), UInt8.ofNat (0x80 + code % 0x40)]

def encode (text : Text) : List UInt8 := text.flatMap encodeChar

end Keychart.Text
