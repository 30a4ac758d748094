import Dialogue.Decimal.Shortest
import Dialogue.Text.Digit

/-! # The layout of a number

How a decimal is written. A number whose leading digit stands between the fifth place after the
point and the sixteenth before it is written with a point and at least one digit on either side of
it; any other has an exponent with its sign, and a point only if it has more than one digit. -/

namespace Dialogue.Decimal

/-- The digits without the zeros at their end. -/
def stripped : Nat → Nat → Int → Decimal
  | 0, digits, exponent => ⟨digits, exponent⟩
  | fuel + 1, digits, exponent =>
    if digits % 10 = 0 ∧ digits ≠ 0 then stripped fuel (digits / 10) (exponent + 1)
    else ⟨digits, exponent⟩

/-- Writes an exponent, with its sign. -/
def signed (n : Int) : List Char := (if n < 0 then '-' else '+') :: Text.decimal n.natAbs

/-- Writes a positive decimal. -/
def layout (d : Decimal) : List Char :=
  let digits := Text.decimal d.digits
  let point : Int := digits.length + d.exponent
  if 0 ≤ d.exponent ∧ point ≤ 16 then
    digits ++ List.replicate d.exponent.toNat '0' ++ ['.', '0']
  else if 0 < point ∧ point ≤ 16 then
    digits.take point.toNat ++ '.' :: digits.drop point.toNat
  else if -5 < point ∧ point ≤ 0 then
    '0' :: '.' :: List.replicate (-point).toNat '0' ++ digits
  else
    let exponent := 'e' :: signed (point - 1)
    match digits with
    | [one] => one :: exponent
    | first :: more => first :: '.' :: more ++ exponent
    | [] => exponent

/-- Writes a finite number of 64 bits. -/
def write (bits : UInt64) : List Char :=
  let x := Binary.ofBits bits
  let sign := if Binary.isNegative bits then ['-'] else []
  if x.significand = 0 then sign ++ ['0', '.', '0']
  else
    let d := x.shortest
    sign ++ (stripped 20 d.digits d.exponent).layout

end Dialogue.Decimal
