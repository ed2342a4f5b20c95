/-
# UTF-8

`encode` writes a text as bytes.  `decode` reads any bytes: what is not UTF-8 becomes the
replacement character, once for each longest stretch of bytes that could still have begun a
character.  The decoder is a machine that takes one byte at a time and remembers only the
character it has begun.
-/
import ChatLink.Text.Basic

namespace ChatLink

/-- A sequence of bytes. -/
abbrev Bytes := List UInt8

namespace Utf8

/-! ### Writing -/

/-- The bytes of one character. -/
def encodeChar (c : Char) : Bytes :=
  let n := c.toNat
  if n < 0x80 then
    [.ofNat n]
  else if n < 0x800 then
    [.ofNat (0xC0 + n / 0x40), .ofNat (0x80 + n % 0x40)]
  else if n < 0x10000 then
    [.ofNat (0xE0 + n / 0x1000), .ofNat (0x80 + n / 0x40 % 0x40), .ofNat (0x80 + n % 0x40)]
  else
    [.ofNat (0xF0 + n / 0x40000), .ofNat (0x80 + n / 0x1000 % 0x40),
      .ofNat (0x80 + n / 0x40 % 0x40), .ofNat (0x80 + n % 0x40)]

/-- The bytes of a text. -/
def encode (t : Text) : Bytes := t.flatMap encodeChar

@[simp] theorem encode_nil : encode [] = [] := rfl

@[simp] theorem encode_append (s t : Text) : encode (s ++ t) = encode s ++ encode t := by
  simp [encode]

/-! ### Reading -/

/-- What stands for bytes that are no character. -/
def replacement : Char := '\ufffd'

/-- A character that has begun: the bytes read so far ask for at least one more. -/
structure Begun where
  /-- The bits read so far, as a number. -/
  bits : Nat
  /-- How many bytes are to follow the next one. -/
  later : Nat
  /-- The least value the next byte may have. -/
  low : Nat
  /-- The greatest value the next byte may have. -/
  high : Nat
deriving DecidableEq, Repr

/-- What the decoder holds between two bytes: a character that has begun, if any. -/
abbrev State := Option Begun

/-- A byte that stands where a character starts. -/
def start (b : UInt8) : Text × State :=
  let n := b.toNat
  if n < 0x80 then ([Char.ofNat n], none)
  else if n < 0xC2 then ([replacement], none)
  else if n < 0xE0 then ([], some ⟨n - 0xC0, 0, 0x80, 0xBF⟩)
  else if n = 0xE0 then ([], some ⟨0, 1, 0xA0, 0xBF⟩)
  else if n = 0xED then ([], some ⟨0xD, 1, 0x80, 0x9F⟩)
  else if n < 0xF0 then ([], some ⟨n - 0xE0, 1, 0x80, 0xBF⟩)
  else if n = 0xF0 then ([], some ⟨0, 2, 0x90, 0xBF⟩)
  else if n < 0xF4 then ([], some ⟨n - 0xF0, 2, 0x80, 0xBF⟩)
  else if n = 0xF4 then ([], some ⟨4, 2, 0x80, 0x8F⟩)
  else ([replacement], none)

/-- One byte: the characters it completes or rules out, and the state after it.  A byte that
cannot continue the character that has begun ends it and is read as a start. -/
def step : State → UInt8 → Text × State
  | none, b => start b
  | some s, b =>
    let n := b.toNat
    if s.low ≤ n ∧ n ≤ s.high then
      let bits := s.bits * 0x40 + n % 0x40
      match s.later with
      | 0 => ([Char.ofNat bits], none)
      | k + 1 => ([], some ⟨bits, k, 0x80, 0xBF⟩)
    else
      let (out, next) := start b
      (replacement :: out, next)

/-- The characters that bytes stand for, from a given state on. -/
def decodeFrom : State → Bytes → Text
  | none, [] => []
  | some _, [] => [replacement]
  | s, b :: bs =>
    let (out, next) := step s b
    out ++ decodeFrom next bs

/-- The text that bytes stand for. -/
def decode (bs : Bytes) : Text := decodeFrom none bs

/-- The text whose UTF-8 form the bytes are, if there is one. -/
def decode? (bs : Bytes) : Option Text :=
  let t := decode bs
  if encode t = bs then some t else none

end Utf8
end ChatLink
