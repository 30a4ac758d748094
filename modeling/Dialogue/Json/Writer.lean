import Dialogue.Json.Value
import Dialogue.Decimal.Layout

/-! # Writing JSON

A value is written without blanks. In a string only the quote, the backslash and the control
characters are escaped. -/

namespace Dialogue.Json

/-- One hexadecimal digit. -/
def hexDigit (n : Nat) : Char := Nat.digitChar n

/-- One character of a string. -/
def escapedChar (c : Char) : List Char :=
  if c = '"' then ['\\', '"']
  else if c = '\\' then ['\\', '\\']
  else if c = '\x08' then ['\\', 'b']
  else if c = '\x0c' then ['\\', 'f']
  else if c = '\n' then ['\\', 'n']
  else if c = '\r' then ['\\', 'r']
  else if c = '\t' then ['\\', 't']
  else if c.toNat < 0x20 then
    ['\\', 'u', '0', '0', hexDigit (c.toNat / 16), hexDigit (c.toNat % 16)]
  else [c]

/-- A string with its quotes. -/
def writeString (s : List Char) : List Char := '"' :: s.flatMap escapedChar ++ ['"']

/-- A number. -/
def Number.write : Number → List Char
  | .integer n => (toString n).toList
  | .real bits => Decimal.write bits

namespace Value

mutual

/-- Writes a value. -/
def write : Value → List Char
  | null => ['n', 'u', 'l', 'l']
  | bool true => ['t', 'r', 'u', 'e']
  | bool false => ['f', 'a', 'l', 's', 'e']
  | number n => n.write
  | string s => writeString s.toList
  | array [] => ['[', ']']
  | array (v :: rest) => '[' :: (write v ++ writeItems rest)
  | object [] => ['\x7b', '\x7d']
  | object ((k, v) :: rest) =>
    '\x7b' :: (writeString k.toList ++ ':' :: (write v ++ writeFields rest))

/-- Writes the items of an array after the first, and closes it. -/
def writeItems : List Value → List Char
  | [] => [']']
  | v :: rest => ',' :: (write v ++ writeItems rest)

/-- Writes the members of an object after the first, and closes it. -/
def writeFields : List (String × Value) → List Char
  | [] => ['\x7d']
  | (k, v) :: rest => ',' :: (writeString k.toList ++ ':' :: (write v ++ writeFields rest))

end

/-- The text of a value. -/
def text (v : Value) : String := String.ofList v.write

end Value

end Dialogue.Json
