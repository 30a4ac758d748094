import Dialogue.Text.Digit

/-! # Decimal numerals

Reading a natural number from its decimal digits, with an optional plus sign, up to a given limit.
The digits are read from the left, so the first character that is no digit is reported unless the
digits before it are already too large. -/

namespace Dialogue.Text

/-- Why a text is no numeral within the limit. -/
inductive NumeralError where
  | empty
  | invalidDigit
  | tooLarge
  deriving DecidableEq, Repr

/-- The wording of a numeral error. -/
def NumeralError.message : NumeralError → String
  | .empty => "cannot parse integer from empty string"
  | .invalidDigit => "invalid digit found in string"
  | .tooLarge => "number too large to fit in target type"

/-- Reads digits to the end of the text, on top of the value `acc` of those before them. -/
def readDigits (limit : Nat) : Nat → List Char → Except NumeralError Nat
  | acc, [] => .ok acc
  | acc, c :: rest =>
    if !isDigit c then .error .invalidDigit
    else if acc * 10 + digitValue c ≤ limit then readDigits limit (acc * 10 + digitValue c) rest
    else .error .tooLarge

/-- Reads a numeral that is at most `limit`. A lone sign is no numeral. -/
def readNumeral (limit : Nat) : List Char → Except NumeralError Nat
  | [] => .error .empty
  | '+' :: c :: rest => readDigits limit 0 (c :: rest)
  | s => readDigits limit 0 s

/-- The largest number of 64 bits. -/
def maxWord : Nat := 0xFFFFFFFFFFFFFFFF

end Dialogue.Text
