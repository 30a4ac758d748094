import Dialogue.Time.Instant
import Dialogue.Text.Blank
import Dialogue.Text.Digit

/-! # Reading an instant

A time is accepted in one of two forms. The zoned form is that of RFC 3339: fields of a fixed
number of digits and a zone, where a space or a small letter may stand for the `T`. The plain form
has no zone and is taken as UTC; its fields may be shorter and follow blanks, and its year may have
a sign. A text in neither form is refused for what is wrong with it as a plain one. -/

namespace Dialogue.Time

open Text (isDigit valueOf)

/-- Why a text is no plain time. -/
inductive Fault where
  | outOfRange
  | invalid
  | tooShort
  | tooLong
  deriving DecidableEq, Repr

/-- The wording of a fault. -/
def Fault.message : Fault → String
  | outOfRange => "input is out of range"
  | invalid => "input contains invalid characters"
  | tooShort => "premature end of input"
  | tooLong => "trailing input"

/-- Reads at least one digit, and as many as there are up to `most` if that is given. -/
def readDigits (most : Option Nat) (s : List Char) : Except Fault (Nat × List Char) :=
  let digits := (match most with | some n => s.take n | none => s).takeWhile isDigit
  match s, digits with
  | [], _ => .error .tooShort
  | _, [] => .error .invalid
  | _, _ => .ok (valueOf digits, s.drop digits.length)

/-- Reads exactly `width` digits. -/
def readField (width : Nat) (s : List Char) : Except Fault (Nat × List Char) :=
  let digits := s.take width
  if digits.length < width then .error .tooShort
  else if digits.all isDigit then .ok (valueOf digits, s.drop width)
  else .error .invalid

/-- Reads the mark that separates two fields. -/
def readMark (mark : Char) : List Char → Except Fault (List Char)
  | [] => .error .tooShort
  | c :: rest => if c = mark then .ok rest else .error .invalid

/-- A number within its range. -/
def inRange (low high : Int) (n : Int) : Except Fault Unit :=
  if low ≤ n ∧ n ≤ high then .ok () else .error .outOfRange

/-- Reads the fraction of a second if there is one, in nanoseconds; digits after the ninth are
dropped. -/
def readFraction : List Char → Except Fault (Nat × List Char)
  | '.' :: rest => do
    let (n, after) ← readDigits (some 9) rest
    let width := rest.length - after.length
    .ok (n * Nat.pow 10 (9 - width), after.dropWhile isDigit)
  | s => .ok (0, s)

/-! ## The zoned form -/

/-- Reads a zone: its offset in minutes ahead of UTC. -/
def readZone : List Char → Except Fault (Int × List Char)
  | [] => .error .tooShort
  | 'Z' :: rest => .ok (0, rest)
  | 'z' :: rest => .ok (0, rest)
  | sign :: rest => do
    if sign ≠ '+' ∧ sign ≠ '-' ∧ sign ≠ '\u2212' then .error .invalid
    let (hours, rest) ← readField 2 rest
    let rest ← readMark ':' rest
    let (minutes, rest) ← readField 2 rest
    inRange 0 59 minutes
    inRange 0 23 hours
    let offset : Int := hours * 60 + minutes
    .ok (if sign = '+' then offset else -offset, rest)

/-- Reads the letter or space between a date and a time. -/
def readDateEnd : List Char → Except Fault (List Char)
  | [] => .error .tooShort
  | c :: rest => if c = 'T' ∨ c = 't' ∨ c = ' ' then .ok rest else .error .invalid

/-- Reads a time in the zoned form. -/
def readZoned (s : List Char) : Except Fault Instant := do
  let (year, s) ← readField 4 s
  let s ← readMark '-' s
  let (month, s) ← readField 2 s
  let s ← readMark '-' s
  let (day, s) ← readField 2 s
  let s ← readDateEnd s
  let (hour, s) ← readField 2 s
  let s ← readMark ':' s
  let (minute, s) ← readField 2 s
  let s ← readMark ':' s
  let (second, s) ← readField 2 s
  let (nanosecond, s) ← readFraction s
  let (offset, s) ← readZone s
  if s ≠ [] then .error .tooLong
  let t : Instant := ⟨⟨year, month, day⟩, hour, minute, second, nanosecond⟩
  if t.Valid then .ok (t.behind offset) else .error .outOfRange

/-! ## The plain form -/

/-- The largest number that a field can hold while it is read. -/
def maxField : Nat := 0x7FFFFFFFFFFFFFFF

/-- Reads a field of a plain time, after blanks. -/
def readPlainField (most : Option Nat) (s : List Char) : Except Fault (Nat × List Char) := do
  let (n, rest) ← readDigits most s
  if maxField < n then .error .outOfRange
  .ok (n, rest)

/-- Reads the year of a plain time. With a sign it may have any number of digits. -/
def readPlainYear (s : List Char) : Except Fault (Int × List Char) := do
  let (year, rest) ← match Text.trimStart s with
    | '-' :: s => (readPlainField none s).map fun (n, r) => (-(n : Int), r)
    | '+' :: s => (readPlainField none s).map fun (n, r) => ((n : Int), r)
    | s => (readPlainField (some 4) s).map fun (n, r) => ((n : Int), r)
  inRange (-0x80000000) 0x7FFFFFFF year
  .ok (year, rest)

/-- Reads another field of a plain time, which lies between the given numbers. -/
def readPlain (low high : Nat) (s : List Char) : Except Fault (Nat × List Char) := do
  let (n, rest) ← readPlainField (some 2) (Text.trimStart s)
  inRange low high n
  .ok (n, rest)

/-- Reads a time in the plain form. -/
def readUnzoned (s : List Char) : Except Fault Instant := do
  let (year, s) ← readPlainYear s
  let s ← readMark '-' s
  let (month, s) ← readPlain 1 12 s
  let s ← readMark '-' s
  let (day, s) ← readPlain 1 31 s
  let s ← readMark 'T' s
  let (hour, s) ← readPlain 0 23 s
  let s ← readMark ':' s
  let (minute, s) ← readPlain 0 59 s
  let s ← readMark ':' s
  let (second, s) ← readPlain 0 60 s
  let (nanosecond, s) ← readFraction s
  if s ≠ [] then .error .tooLong
  let t : Instant := ⟨⟨year, month, day⟩, hour, minute, second, nanosecond⟩
  if t.date.Valid then .ok t else .error .outOfRange

/-- Reads a time in either form. -/
def Instant.parse (text : String) : Except Fault Instant :=
  match readZoned text.toList with
  | .ok t => .ok t
  | .error _ => readUnzoned text.toList

end Dialogue.Time
