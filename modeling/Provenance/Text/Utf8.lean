import Provenance.Text.Hex

/-!
UTF-8. `encode` writes a text as bytes and `decode` reads bytes back; bytes that are not the
encoding of any text are refused at the first character that cannot be completed, with the place
and the reason.
-/
namespace Provenance.Text.Utf8

/-- Why a sequence of bytes is no text. -/
inductive Reason where
  | invalidStart | invalidContinuation | endOfData
  deriving DecidableEq, Repr

/-- The place and the kind of the first fault: `bytes` are the bytes that the fault covers. -/
structure Fault where
  position : Nat
  bytes : List UInt8
  reason : Reason
  deriving DecidableEq, Repr

/-- The bytes of one character. -/
def encodeChar (c : Char) : List UInt8 :=
  let n := c.toNat
  if n < 0x80 then [UInt8.ofNat n]
  else if n < 0x800 then [UInt8.ofNat (0xC0 + n / 64), UInt8.ofNat (0x80 + n % 64)]
  else if n < 0x10000 then
    [UInt8.ofNat (0xE0 + n / 4096), UInt8.ofNat (0x80 + n / 64 % 64), UInt8.ofNat (0x80 + n % 64)]
  else
    [UInt8.ofNat (0xF0 + n / 262144), UInt8.ofNat (0x80 + n / 4096 % 64),
      UInt8.ofNat (0x80 + n / 64 % 64), UInt8.ofNat (0x80 + n % 64)]

/-- The bytes of a text. -/
def encode (s : List Char) : List UInt8 :=
  s.flatMap encodeChar

/-- What a leading byte announces: the payload it carries, the range of the byte after it, and how
many further continuation bytes follow that one. -/
structure Lead where
  payload : Nat
  low : Nat
  high : Nat
  more : Nat
  deriving DecidableEq, Repr

/-- The announcement of a leading byte of a character of two to four bytes. The ranges of the
second byte leave out overlong forms, surrogates and numbers above U+10FFFF. -/
def leadOf (b : Nat) : Option Lead :=
  if 0xC2 ≤ b ∧ b ≤ 0xDF then some ⟨b - 0xC0, 0x80, 0xBF, 0⟩
  else if b = 0xE0 then some ⟨0, 0xA0, 0xBF, 1⟩
  else if b = 0xED then some ⟨0xD, 0x80, 0x9F, 1⟩
  else if 0xE1 ≤ b ∧ b ≤ 0xEF then some ⟨b - 0xE0, 0x80, 0xBF, 1⟩
  else if b = 0xF0 then some ⟨0, 0x90, 0xBF, 2⟩
  else if 0xF1 ≤ b ∧ b ≤ 0xF3 then some ⟨b - 0xF0, 0x80, 0xBF, 2⟩
  else if b = 0xF4 then some ⟨4, 0x80, 0x8F, 2⟩
  else none

/-- The decoder stands between characters, or inside one. -/
inductive State where
  | start
  /-- `taken` are the bytes of the character so far, last first; the next byte lies between `low`
  and `high`, and `more` continuation bytes follow it. -/
  | within (taken : List UInt8) (payload low high more : Nat)
  deriving DecidableEq, Repr

/-- Reads bytes from `position` on; `done` holds the characters so far, last first. A byte that
does not continue the character at hand belongs to the fault no more. -/
def decodeFrom : State → Nat → List Char → List UInt8 → Except Fault (List Char)
  | .start, _, done, [] => .ok done.reverse
  | .within taken _ _ _ _, position, _, [] =>
    .error ⟨position - taken.length, taken.reverse, .endOfData⟩
  | .start, position, done, b :: rest =>
    if b.toNat < 0x80 then decodeFrom .start (position + 1) (Char.ofNat b.toNat :: done) rest
    else
      match leadOf b.toNat with
      | none => .error ⟨position, [b], .invalidStart⟩
      | some lead =>
        decodeFrom (.within [b] lead.payload lead.low lead.high lead.more) (position + 1) done rest
  | .within taken payload low high more, position, done, b :: rest =>
    if low ≤ b.toNat ∧ b.toNat ≤ high then
      let payload := payload * 64 + (b.toNat - 0x80)
      match more with
      | 0 => decodeFrom .start (position + 1) (Char.ofNat payload :: done) rest
      | more + 1 =>
        decodeFrom (.within (b :: taken) payload 0x80 0xBF more) (position + 1) done rest
    else .error ⟨position - taken.length, taken.reverse, .invalidContinuation⟩

/-- The text that a sequence of bytes encodes. -/
def decode (bytes : List UInt8) : Except Fault (List Char) :=
  decodeFrom .start 0 [] bytes

/-- The length of the unfinished character at the end of well-formed bytes. -/
def pending (bytes : List UInt8) : Nat :=
  match decode bytes with
  | .ok _ => 0
  | .error fault => fault.bytes.length

/-- The text of a file that is read in blocks of `size` bytes. Positions of faults count from the
beginning of the block at hand, together with the unfinished character that the block before it
left; a character that the last block leaves unfinished is a fault at position zero. -/
def decodeBlocks (size : Nat) (bytes : List UInt8) : Except Fault (List Char) :=
  match decode bytes with
  | .ok text => .ok text
  | .error fault =>
    let blockOf (place : Nat) : Except Fault (List Char) :=
      let start := place / size * size
      .error { fault with position := fault.position + pending (bytes.take start) - start }
    match fault.reason with
    | .endOfData => .error { fault with position := 0 }
    | .invalidStart => blockOf fault.position
    | .invalidContinuation => blockOf (fault.position + fault.bytes.length)

/-- The reason in words. -/
def Reason.text : Reason → String
  | .invalidStart => "invalid start byte"
  | .invalidContinuation => "invalid continuation byte"
  | .endOfData => "unexpected end of data"

/-- The fault in words: one byte is named, several are given by their first and last position. -/
def Fault.message (fault : Fault) : String :=
  let place :=
    match fault.bytes with
    | [b] => s!"byte 0x{hexByte b} in position {fault.position}"
    | bytes => s!"bytes in position {fault.position}-{fault.position + bytes.length - 1}"
  s!"'utf-8' codec can't decode {place}: {fault.reason.text}"

end Provenance.Text.Utf8
