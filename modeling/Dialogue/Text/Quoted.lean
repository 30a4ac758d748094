import Dialogue.Text.Printable
import Dialogue.Text.GraphemeExtend

/-! # Quoted text

How a text is shown inside a message: between double quotes, with a backslash before a quote or a
backslash, the usual short escapes for the common control characters, and the code point in
hexadecimal for every other character that cannot be shown as itself. -/

namespace Dialogue.Text

/-- The number in lower-case hexadecimal, without leading zeros. -/
def hexadecimal (n : Nat) : List Char := Nat.toDigits 16 n

/-- One character of a quoted text. -/
def quotedChar (c : Char) : List Char :=
  if c = '\x00' then ['\\', '0']
  else if c = '\t' then ['\\', 't']
  else if c = '\r' then ['\\', 'r']
  else if c = '\n' then ['\\', 'n']
  else if c = '\\' || c = '"' then ['\\', c]
  else if extendsGrapheme c || !isPrintable c then
    ['\\', 'u', '\x7b'] ++ hexadecimal c.toNat ++ ['\x7d']
  else [c]

/-- The text between double quotes. -/
def quoted (s : String) : String :=
  String.ofList ('"' :: s.toList.flatMap quotedChar ++ ['"'])

end Dialogue.Text
