/-! # The shortest decimal that reads back

A finite binary number of 64 bits is `m * 2 ^ q`. Every decimal between the midpoints to its two
neighbours reads back as it, the midpoints themselves when `m` is even. `shortest` finds the
decimal with the fewest digits among those, and of these the one nearest to the number. -/

namespace Dialogue

/-- A positive binary number: its significand and exponent, and whether the neighbour below is
half as far as the one above, which is so at a power of two. -/
structure Binary where
  significand : Nat
  exponent : Int
  narrowBelow : Bool

/-- A decimal `digits * 10 ^ exponent`. -/
structure Decimal where
  digits : Nat
  exponent : Int
  deriving DecidableEq, Repr

namespace Binary

/-- The sign bit of a number of 64 bits. -/
def isNegative (bits : UInt64) : Bool := decide (bits.toNat / Nat.pow 2 63 = 1)

/-- The absolute value of a finite number of 64 bits. -/
def ofBits (bits : UInt64) : Binary :=
  let fraction := bits.toNat % Nat.pow 2 52
  let field := bits.toNat / Nat.pow 2 52 % Nat.pow 2 11
  if field = 0 then ⟨fraction, -1074, false⟩
  else ⟨Nat.pow 2 52 + fraction, Int.ofNat field - 1075, fraction == 0 && field > 1⟩

/-- A power with an exponent of either sign, as a numerator and a denominator. -/
def power (base : Nat) (exponent : Int) : Nat × Nat :=
  (base.pow exponent.toNat, base.pow (-exponent).toNat)

/-- Compares `a * 2 ^ q` with `b * 10 ^ k`. -/
def compareScaled (a : Nat) (q : Int) (b : Nat) (k : Int) : Ordering :=
  let (twos, twosBelow) := power 2 q
  let (tens, tensBelow) := power 10 k
  compare (a * twos * tensBelow) (b * tens * twosBelow)

/-- The decimal exponent of the leading digit of `x`. A quotient of logarithms gives it up to one,
and comparing with the powers of ten around settles it. -/
def magnitude (x : Binary) : Int :=
  let guess := ((x.significand.log2 : Int) + x.exponent) * 1233 / 4096
  if compareScaled x.significand x.exponent 1 (guess + 1) != .lt then guess + 1
  else if compareScaled x.significand x.exponent 1 guess == .lt then guess - 1
  else guess

/-- The greatest number on the grid of `10 ^ k` that is at most `x`, in units of the grid. -/
def floorOn (x : Binary) (k : Int) : Nat :=
  let (twos, twosBelow) := power 2 x.exponent
  let (tens, tensBelow) := power 10 k
  x.significand * twos * tensBelow / (tens * twosBelow)

/-- Whether `d * 10 ^ k` reads back as `x`. -/
def readsBack (x : Binary) (d : Nat) (k : Int) : Bool :=
  let even := x.significand % 2 == 0
  let low := 4 * x.significand - if x.narrowBelow then 1 else 2
  let high := 4 * x.significand + 2
  let below := compareScaled low (x.exponent - 2) d k
  let above := compareScaled high (x.exponent - 2) d k
  (below == .lt || even && below == .eq) && (above == .gt || even && above == .eq)

/-- The better of two neighbours on the grid of `10 ^ k` that both read back: the nearer one, and
at the same distance the even one. -/
def nearer (x : Binary) (d k : Int) : Int :=
  match compareScaled (2 * x.significand) x.exponent (2 * d + 1).toNat k with
  | .lt => d
  | .gt => d + 1
  | .eq => if d % 2 = 0 then d else d + 1

/-- A decimal on the grid of `10 ^ k` that reads back as `x`, if there is one. -/
def on? (x : Binary) (k : Int) : Option Decimal :=
  let d := x.floorOn k
  match x.readsBack d k, x.readsBack (d + 1) k with
  | true, true => some ⟨(x.nearer d k).toNat, k⟩
  | true, false => some ⟨d, k⟩
  | false, true => some ⟨d + 1, k⟩
  | false, false => none

/-- The first decimal that reads back on grids of which each is ten times finer than the one
before it. -/
def firstOn (x : Binary) : Nat → Int → Decimal
  | 0, k => ⟨x.floorOn k, k⟩
  | more + 1, k => (x.on? k).getD (x.firstOn more (k - 1))

/-- The shortest decimal that reads back as `x`; seventeen digits are always enough. -/
def shortest (x : Binary) : Decimal := x.firstOn 17 x.magnitude

end Binary

end Dialogue
