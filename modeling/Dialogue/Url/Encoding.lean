import Dialogue.Text.Utf8
import Dialogue.Json.Reader.Quoted

/-! # Percent-encoding

In a part of a URL every character outside ASCII, every control character, and some characters
that depend on the part are written as the hexadecimal values of their bytes. -/

namespace Dialogue.Url

/-- Whether a character is encoded in every part of a URL. -/
def isUnsafe (c : Char) : Bool := c.toNat < 0x20 || 0x7F ≤ c.toNat

/-- The characters that are also encoded in a fragment. -/
def fragmentSet : List Char := [' ', '"', '<', '>', Char.ofNat 0x60]

/-- The characters that are also encoded in a path. -/
def pathSet : List Char := fragmentSet ++ ['#', '?', '\x7b', '\x7d']

/-- The characters that are also encoded in a query. -/
def querySet : List Char := [' ', '"', '#', '<', '>']

/-- The characters that are also encoded in a query of a special scheme. -/
def specialQuerySet : List Char := '\'' :: querySet

/-- The characters that are also encoded in a user name or a password. -/
def userSet : List Char :=
  pathSet ++ ['/', ':', ';', '=', '@', '[', '\\', ']', '^', '|']

/-- One byte in percent-encoding. -/
def encodeByte (b : UInt8) : List Char :=
  ['%', (Nat.digitChar (b.toNat / 16)).toUpper, (Nat.digitChar (b.toNat % 16)).toUpper]

/-- A text in percent-encoding, with the characters of `set` encoded too. -/
def percentEncode (set : List Char) (s : List Char) : List Char :=
  s.flatMap fun c =>
    if isUnsafe c || set.contains c then (Text.encodeChar c).flatMap encodeByte else [c]

/-- The bytes of a text in percent-encoding. A percent sign without two hexadecimal digits stands
for itself. -/
def percentDecode : List Char → List UInt8
  | [] => []
  | '%' :: a :: b :: rest =>
    match Json.hexValue? a, Json.hexValue? b with
    | some x, some y => UInt8.ofNat (x * 16 + y) :: percentDecode rest
    | _, _ => 0x25 :: percentDecode (a :: b :: rest)
  | c :: rest => Text.encodeChar c ++ percentDecode rest

end Dialogue.Url
