import Dialogue.Text.Utf8

/-! # Text in units of two bytes

Reading bytes as UTF-16, whatever they are. Half of a pair that stands alone becomes one
replacement character, and so does what is left at the end. -/

namespace Dialogue.Text

/-- Which of the two bytes of a unit comes first. -/
inductive ByteOrder where
  | littleEndian
  | bigEndian
  deriving DecidableEq, Repr

/-- The unit that two bytes make. -/
def ByteOrder.unit (order : ByteOrder) (a b : UInt8) : Nat :=
  match order with
  | .littleEndian => b.toNat * 256 + a.toNat
  | .bigEndian => a.toNat * 256 + b.toNat

/-- The units of a text, and whether half a unit is left at its end. -/
def ByteOrder.units (order : ByteOrder) : List UInt8 → List Nat × Bool
  | a :: b :: rest =>
    let (us, broken) := units order rest
    (order.unit a b :: us, broken)
  | [_] => ([], true)
  | [] => ([], false)

/-- Whether a unit is the first of a pair. -/
def isLeading (u : Nat) : Bool := 0xD800 ≤ u && u < 0xDC00

/-- Whether a unit is the second of a pair. -/
def isTrailing (u : Nat) : Bool := 0xDC00 ≤ u && u < 0xE000

/-- The character of a pair. -/
def pairChar (u v : Nat) : Char := Char.ofNat (0x10000 + (u - 0xD800) * 0x400 + (v - 0xDC00))

/-- The character of a unit that makes no pair. -/
def unitChar (u : Nat) : Char :=
  if isLeading u || isTrailing u then replacement else Char.ofNat u

/-- The characters of units. If half a unit is left after them and the last begins a pair, one
character stands for both. -/
def charsOfUnits (broken : Bool) : List Nat → List Char
  | [] => if broken then [replacement] else []
  | [u] => if isLeading u then [replacement] else unitChar u :: charsOfUnits broken []
  | u :: v :: rest =>
    if isLeading u && isTrailing v then pairChar u v :: charsOfUnits broken rest
    else unitChar u :: charsOfUnits broken (v :: rest)

/-- Reads bytes as UTF-16, whatever they are. -/
def decodeUtf16 (order : ByteOrder) (bytes : List UInt8) : List Char :=
  let (us, broken) := order.units bytes
  charsOfUnits broken us

end Dialogue.Text
