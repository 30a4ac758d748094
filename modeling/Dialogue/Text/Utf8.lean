/-! # Text as bytes

The length of a text in UTF-8, the cutting of a text to a number of bytes, and the reading of bytes
that need not be well formed: each maximal part of a character that is not completed becomes one
replacement character. -/

namespace Dialogue.Text

/-- The number of bytes of a text. -/
def byteLength : List Char → Nat
  | [] => 0
  | c :: rest => c.utf8Size + byteLength rest

/-- The last boundary between characters that is at most a number of bytes into the text. It is
looked for from there back to the start, which is a boundary in every text. -/
def lastBoundary (s : String) : Nat → s.Pos
  | 0 => s.startPos
  | n + 1 =>
    if boundary : String.Pos.Raw.IsValid s ⟨n + 1⟩ then ⟨⟨n + 1⟩, boundary⟩ else lastBoundary s n

/-- The text itself if it fits the budget, otherwise what stands before the last boundary that does,
and an ellipsis. -/
def shortened (budget : Nat) (s : String) : String :=
  if s.utf8ByteSize ≤ budget then s else (s.sliceTo (lastBoundary s budget)).copy ++ "…"

/-- What a first byte asks of the bytes after it: how many follow, the bits it contributes, and
the range of the byte right after it. -/
structure Lead where
  following : Nat
  bits : Nat
  low : Nat
  high : Nat

/-- The role of a byte that starts a character of more than one byte. -/
def lead? (b : Nat) : Option Lead :=
  if 0xC2 ≤ b ∧ b ≤ 0xDF then some ⟨1, b - 0xC0, 0x80, 0xBF⟩
  else if b = 0xE0 then some ⟨2, 0, 0xA0, 0xBF⟩
  else if b = 0xED then some ⟨2, 0xD, 0x80, 0x9F⟩
  else if 0xE1 ≤ b ∧ b ≤ 0xEF then some ⟨2, b - 0xE0, 0x80, 0xBF⟩
  else if b = 0xF0 then some ⟨3, 0, 0x90, 0xBF⟩
  else if 0xF1 ≤ b ∧ b ≤ 0xF3 then some ⟨3, b - 0xF0, 0x80, 0xBF⟩
  else if b = 0xF4 then some ⟨3, 4, 0x80, 0x8F⟩
  else none

/-- The character put in place of bytes that belong to none. -/
def replacement : Char := '\ufffd'

/-- Where the reading of bytes stands: between characters, or inside one that still waits for
bytes in the given range. -/
inductive Decoding where
  | between
  | inside (waiting : Nat) (bits low high : Nat)

/-- Reads a byte that starts a character, and goes on with the state it leaves. -/
def startChar (b : Nat) : List Char × Decoding :=
  if b < 0x80 then ([Char.ofNat b], .between)
  else match lead? b with
    | some l => ([], .inside l.following l.bits l.low l.high)
    | none => ([replacement], .between)

/-- The characters completed by one more byte, and the state after it. -/
def decodeByte : Decoding → Nat → List Char × Decoding
  | .between, b => startChar b
  | .inside waiting bits low high, b =>
    if low ≤ b ∧ b ≤ high then
      let bits := bits * 64 + (b - 0x80)
      if waiting ≤ 1 then ([Char.ofNat bits], .between)
      else ([], .inside (waiting - 1) bits 0x80 0xBF)
    else
      let (cs, next) := startChar b
      (replacement :: cs, next)

/-- Reads bytes from a state to their end. -/
def decodeFrom : Decoding → List UInt8 → List Char
  | .between, [] => []
  | .inside .., [] => [replacement]
  | state, b :: rest =>
    let (cs, next) := decodeByte state b.toNat
    cs ++ decodeFrom next rest

/-- Reads bytes as UTF-8, whatever they are. -/
def decodeUtf8 (bytes : List UInt8) : List Char := decodeFrom .between bytes

/-- The bytes of a character. -/
def encodeChar (c : Char) : List UInt8 := String.utf8EncodeChar c

/-- The bytes of a text. -/
def encode (s : List Char) : List UInt8 := s.flatMap encodeChar

end Dialogue.Text
