import PropOrder.Text.Basic

/-!
# UTF-8

Bytes are read as UTF-8, and what stands for the maximal part of a sequence that cannot be completed
is up to the reader: one replacement character for all of it, or a surrogate half for each of its
bytes, from which the bytes can be had again. The reader is a machine over the bytes: between two
code points it rests, and inside a sequence it knows which byte may come next.
-/

namespace PropOrder.Text.Utf8

/-- The replacement character. -/
def replacement : Nat := 0xFFFD

/-- The surrogate half that stands for a byte. -/
def half (byte : UInt8) : Nat := 0xDC00 + byte.toNat

/-- A sequence that has begun: its bytes and the bits read so far, the range that the next byte must
lie in, and how many bytes follow that one. -/
structure Pending where
  /-- The bytes of the sequence so far. -/
  bytes : List UInt8
  /-- The bits read so far. -/
  bits : Nat
  /-- The least next byte. -/
  low : Nat
  /-- The greatest next byte. -/
  high : Nat
  /-- The number of bytes after the next one. -/
  more : Nat

/-- What a first byte begins. -/
inductive Lead where
  /-- A code point of one byte. -/
  | whole (code : Nat)
  /-- A sequence of several bytes. -/
  | opens (pending : Pending)
  /-- Nothing: the byte begins no sequence. -/
  | invalid

/-- Classify a first byte. Overlong forms, surrogates and code points above the last plane are
kept out by the range of the second byte. -/
def lead (byte : UInt8) : Lead :=
  let b := byte.toNat
  if b < 0x80 then .whole b
  else if b < 0xC2 then .invalid
  else if b < 0xE0 then .opens ⟨[byte], b - 0xC0, 0x80, 0xBF, 0⟩
  else if b = 0xE0 then .opens ⟨[byte], 0, 0xA0, 0xBF, 1⟩
  else if b = 0xED then .opens ⟨[byte], 0xD, 0x80, 0x9F, 1⟩
  else if b < 0xF0 then .opens ⟨[byte], b - 0xE0, 0x80, 0xBF, 1⟩
  else if b = 0xF0 then .opens ⟨[byte], 0, 0x90, 0xBF, 2⟩
  else if b < 0xF4 then .opens ⟨[byte], b - 0xF0, 0x80, 0xBF, 2⟩
  else if b = 0xF4 then .opens ⟨[byte], 4, 0x80, 0x8F, 2⟩
  else .invalid

/-- What a byte gives when the machine rests, and the state after it. -/
def begin (broken : List UInt8 → Text) (byte : UInt8) : Text × Option Pending :=
  match lead byte with
  | .whole c => ([c], none)
  | .opens p => ([], some p)
  | .invalid => (broken [byte], none)

/-- Read bytes from a state of the machine, with what stands for a broken sequence. -/
def decodeFrom (broken : List UInt8 → Text) : Option Pending → List UInt8 → Text
  | none, [] => []
  | some p, [] => broken p.bytes
  | none, byte :: rest =>
    let (out, state) := begin broken byte
    out ++ decodeFrom broken state rest
  | some p, byte :: rest =>
    if p.low ≤ byte.toNat ∧ byte.toNat ≤ p.high then
      let bits := p.bits * 64 + (byte.toNat - 0x80)
      match p.more with
      | 0 => bits :: decodeFrom broken none rest
      | more + 1 => decodeFrom broken (some ⟨p.bytes ++ [byte], bits, 0x80, 0xBF, more⟩) rest
    else
      let (out, state) := begin broken byte
      broken p.bytes ++ (out ++ decodeFrom broken state rest)

/-- The text of a sequence of bytes, with one replacement character for a broken sequence. -/
def decode (bytes : List UInt8) : Text := decodeFrom (fun _ => [replacement]) none bytes

/-- The text of a sequence of bytes, with halves for the bytes of a broken sequence. -/
def decodeKeeping (bytes : List UInt8) : Text := decodeFrom (·.map half) none bytes

/-- The bytes of a code point that is no surrogate. -/
def encodeOne (c : Nat) : List UInt8 :=
  let tail (n : Nat) : UInt8 := (0x80 + n % 64).toUInt8
  if c < 0x80 then [c.toUInt8]
  else if c < 0x800 then [(0xC0 + c / 0x40).toUInt8, tail c]
  else if c < 0x10000 then [(0xE0 + c / 0x1000).toUInt8, tail (c / 0x40), tail c]
  else [(0xF0 + c / 0x40000).toUInt8, tail (c / 0x1000), tail (c / 0x40), tail c]

end PropOrder.Text.Utf8
