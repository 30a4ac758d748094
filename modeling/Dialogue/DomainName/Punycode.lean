import Dialogue.Text.Digit

/-! # Labels in ASCII letters

A label with characters outside ASCII is written as its ASCII characters, a hyphen if there are
any, and a row of numbers in base 36. Each number says how far it is from one character to the
next, where the characters are taken in the order of their code points and each is told apart by
the place where it is put in. A number ends at its first digit below a threshold, and the
thresholds adapt to the numbers before. -/

namespace Dialogue.DomainName.Punycode

/-- The digit of a value below 36: a letter, and a numeral from 26 on. -/
def digit (n : Nat) : Char := Char.ofNat (if n < 26 then 'a'.toNat + n else '0'.toNat + (n - 26))

/-- The value of a digit. -/
def digit? (c : Char) : Option Nat :=
  if 'a' ≤ c ∧ c ≤ 'z' then some (c.toNat - 'a'.toNat)
  else if Text.isDigit c then some (26 + Text.digitValue c)
  else none

/-- The least value of a digit that is not the last, `place` digits after the first. -/
def threshold (place bias : Nat) : Nat := max 1 (min 26 (36 * (place + 1) - bias))

theorem threshold_pos (place bias : Nat) : 0 < threshold place bias := by
  unfold threshold; omega

/-- How often a number is divided by 35 until it is at most 455, and what is left. -/
def settle (n : Nat) : Nat × Nat :=
  if 455 < n then
    let (times, rest) := settle (n / 35)
    (times + 1, rest)
  else (0, n)

/-- The bias after a number, when `count` characters are in place. The first number is damped. -/
def adapted (n count : Nat) (first : Bool) : Nat :=
  let n := if first then n / 700 else n / 2
  let (times, rest) := settle (n + n / count)
  36 * times + 36 * rest / (rest + 38)

/-- The bias before the first number. -/
def initialBias : Nat := 72

/-- The first code point that is not written as itself. -/
def initialPoint : Nat := 128

/-- Whether a character is written as itself. -/
def isBasic (c : Char) : Bool := c.toNat < initialPoint

/-! ## Writing -/

/-- The digits of a number from some place on. -/
def writeNumber (bias place n : Nat) : List Char :=
  let t := threshold place bias
  if n < t then [digit n]
  else digit (t + (n - t) % (36 - t)) :: writeNumber bias (place + 1) ((n - t) / (36 - t))
termination_by n
decreasing_by
  have := threshold_pos place bias
  exact Nat.lt_of_le_of_lt (Nat.div_le_self _ _) (by omega)

/-- How far the writing has come: the numbers written, the distance since the last of them, the
bias, and how many characters are in place. -/
structure Writing where
  written : List Char
  distance : Nat
  bias : Nat
  count : Nat
  isFirst : Bool

/-- Passes one character of the label while those with code point `point` are put in. -/
def Writing.pass (point : Nat) (w : Writing) (c : Char) : Writing :=
  if c.toNat < point then { w with distance := w.distance + 1 }
  else if c.toNat = point then
    { written := w.written ++ writeNumber w.bias 0 w.distance
      distance := 0
      bias := adapted w.distance (w.count + 1) w.isFirst
      count := w.count + 1
      isFirst := false }
  else w

/-- Puts in the characters of a label that have the given code points, which come in order; the
first distance is counted from `start`. -/
def Writing.putIn (s : List Char) : Nat → List Nat → Writing → Writing
  | _, [], w => w
  | start, point :: rest, w =>
    let w := { w with distance := w.distance + (point - start) * (w.count + 1) }
    let w := s.foldl (Writing.pass point) w
    Writing.putIn s (point + 1) rest { w with distance := w.distance + 1 }

/-- The code points of a label that are not written as themselves, in order. -/
def points (s : List Char) : List Nat :=
  (((s.filter (!isBasic ·)).map Char.toNat).mergeSort).eraseDups

/-- Writes a label. -/
def encode (s : List Char) : List Char :=
  let basic := s.filter isBasic
  let w := Writing.putIn s initialPoint (points s) ⟨[], 0, initialBias, basic.length, true⟩
  (if basic = [] then [] else basic ++ ['-']) ++ w.written

/-! ## Reading -/

/-- How far the reading has come: the characters in place, the last code point, where the last
number began to count and how far the present one has come, the place of its next digit, the
weight of that digit, and the bias. -/
structure Reading where
  text : List Char
  point : Nat
  start : Nat
  distance : Nat
  place : Nat
  weight : Nat
  bias : Nat

/-- The numbers stay below this. -/
def limit : Nat := 0x100000000

/-- Puts in the character that a complete number stands for. -/
def Reading.putIn? (r : Reading) (distance : Nat) : Option Reading :=
  let count := r.text.length + 1
  let point := r.point + distance / count
  let index := distance % count
  if point.isValidChar then
    some {
      text := r.text.insertIdx index (Char.ofNat point)
      point
      start := index + 1
      distance := index + 1
      place := 0
      weight := 1
      bias := adapted (distance - r.start) count (r.start = 0) }
  else none

/-- Reads a digit. -/
def Reading.next? (r : Reading) (c : Char) : Option Reading := do
  let value ← digit? c
  let distance := r.distance + value * r.weight
  let t := threshold r.place r.bias
  if limit ≤ distance then none
  else if value < t then r.putIn? distance
  else if limit ≤ r.weight * (36 - t) then none
  else some { r with distance, place := r.place + 1, weight := r.weight * (36 - t) }

/-- The text before the last hyphen, if any stands before it, and the digits. -/
def cutBasic (s : List Char) : List Char × List Char :=
  let digits := (s.reverse.takeWhile (· ≠ '-')).reverse
  let basic := s.take (s.length - digits.length - 1)
  if basic = [] then ([], s) else (basic, digits)

/-- Reads a label. -/
def decode? (s : List Char) : Option (List Char) := do
  let (basic, digits) := cutBasic s
  let r ← digits.foldlM Reading.next? ⟨basic, initialPoint, 0, 0, 0, 1, initialBias⟩
  if basic.all isBasic && r.place = 0 then some r.text else none

end Dialogue.DomainName.Punycode
