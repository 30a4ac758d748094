import Dialogue.Json.Reader.Fault
import Dialogue.Text.Digit

/-! # Numbers in JSON

A number without a point and an exponent is whole if it fits 64 bits. Any other number is binary:
as many of its digits as a whole number of 64 bits can hold are taken, and the power of ten that is
left is multiplied in or divided out, which may miss the nearest binary number by a little. -/

namespace Dialogue.Json

open Text (isDigit digitValue)

/-- The digits at the start of a text, and the rest. -/
def splitDigits (s : List Char) : List Nat × List Char :=
  ((s.takeWhile isDigit).map digitValue, s.dropWhile isDigit)

/-- Whether a number is negative, and the text after its sign. -/
def splitSign (s : List Char) : Bool × List Char :=
  match s with
  | '-' :: r => (true, r)
  | s => (false, s)

/-- Reads the digits before the point. The first is zero only if it is the only one. -/
def readWhole (s : List Char) : Except Fault (List Nat × List Char) :=
  match s with
  | [] => fault .unfinishedValue [] 0
  | '0' :: r =>
    if (splitDigits r).1.isEmpty then .ok ([0], r) else fault .badNumber r 1
  | c :: r => if isDigit c then .ok (splitDigits (c :: r)) else fault .badNumber (c :: r) 1

/-- Reads the point and the digits after it, if there is a point. -/
def readFraction (s : List Char) : Except Fault (Option (List Nat) × List Char) :=
  match s with
  | '.' :: r =>
    match splitDigits r with
    | ([], []) => fault .unfinishedValue [] 0
    | ([], r) => fault .badNumber r 1
    | (digits, r) => .ok (some digits, r)
  | s => .ok (none, s)

/-- A written exponent: its sign, its value, and the text after the digit that made it too large
if one did. -/
structure Exponent where
  down : Bool
  value : Nat
  tooLarge : Option (List Char)

/-- The largest exponent that can be written. -/
def maxExponent : Nat := 0x7FFFFFFF

/-- Reads the digits of an exponent on top of the value of those before them. -/
def exponentOf (down : Bool) : Nat → List Char → Exponent
  | value, [] => ⟨down, value, none⟩
  | value, c :: r =>
    if isDigit c then
      if value * 10 + digitValue c ≤ maxExponent then
        exponentOf down (value * 10 + digitValue c) r
      else ⟨down, value, some r⟩
    else ⟨down, value, none⟩

/-- Whether an exponent is negative, and the text after its sign. -/
def splitExponentSign (s : List Char) : Bool × List Char :=
  match s with
  | '+' :: r => (false, r)
  | '-' :: r => (true, r)
  | s => (false, s)

/-- Reads the exponent, if there is one. -/
def readExponent (s : List Char) : Except Fault (Option Exponent × List Char) :=
  match s with
  | [] => .ok (none, [])
  | e :: r =>
    if e = 'e' || e = 'E' then
      match splitExponentSign r with
      | (_, []) => fault .unfinishedValue [] 0
      | (down, c :: r) =>
        if isDigit c then .ok (some (exponentOf down 0 (c :: r)), r.dropWhile isDigit)
        else fault .badNumber (c :: r) 1
    else .ok (none, e :: r)

/-- The largest whole number that a significand can hold. -/
def maxSignificand : Nat := 0xFFFFFFFFFFFFFFFF

/-- Adds digits to a significand as long as it can hold them, and counts those it took. The first
digit that does not fit ends it. -/
def takeDigits : Nat → List Nat → Nat × Nat
  | n, [] => (n, 0)
  | n, d :: rest =>
    if n * 10 + d ≤ maxSignificand then
      let (m, taken) := takeDigits (n * 10 + d) rest
      (m, taken + 1)
    else (n, 0)

/-- A power of ten as a binary number. -/
def powerOfTen (k : Nat) : Float := Float.ofScientific 1 false k

/-- Divides by ten to the power `k`, by steps of at most 308. -/
def scaleDown (x : Float) (k : Nat) : Float :=
  if k ≤ 308 then x / powerOfTen k
  else if x == 0 then x
  else scaleDown (x / powerOfTen 308) (k - 308)
termination_by k

/-- The binary number for `significand * 10 ^ exponent`, unless it is out of range. -/
def scaled? (significand : Nat) (exponent : Int) : Option Float :=
  let x := (UInt64.ofNat significand).toFloat
  if exponent < 0 then some (scaleDown x (-exponent).toNat)
  else if exponent ≤ 308 then
    let y := x * powerOfTen exponent.toNat
    if y.isInf then none else some y
  else if x == 0 then some x
  else none

/-- A binary number with a sign. -/
def signed (negative : Bool) (x : Float) : Number := .real (if negative then -x else x).toBits

/-- The number `significand * 10 ^ exponent` with its sign, which ends before `s`. -/
def realNumber (negative : Bool) (significand : Nat) (exponent : Int) (s : List Char) :
    Except Fault Number :=
  match scaled? significand exponent with
  | some x => .ok (signed negative x)
  | none => fault .numberRange s 0

/-- The number with the given parts, which ends before `s`. Without a point and an exponent it is
whole if it fits 64 bits; minus zero is not whole. -/
def numberOf (negative : Bool) (whole : List Nat) (fraction : Option (List Nat))
    (exponent : Option Exponent) (s : List Char) : Except Fault Number :=
  let (n, taken) := takeDigits 0 whole
  let skipped := whole.length - taken
  let (m, after) := takeDigits n (fraction.getD [])
  let shift : Int := skipped - after
  match fraction, exponent with
  | none, none =>
    if skipped = 0 then
      if !negative then .ok (.integer n)
      else if 0 < n ∧ n ≤ 0x8000000000000000 then .ok (.integer (-n))
      else .ok (signed true (UInt64.ofNat n).toFloat)
    else realNumber negative n skipped s
  | some _, none => realNumber negative m shift s
  | _, some e =>
    match e.tooLarge with
    | some rest =>
      if m ≠ 0 ∧ !e.down then fault .numberRange rest 0 else .ok (signed negative 0)
    | none => realNumber negative m (if e.down then shift - e.value else shift + e.value) s

/-- Reads a number. -/
def readNumber (s : List Char) : Except Fault (Number × List Char) := do
  let (negative, s) := splitSign s
  let (whole, s) ← readWhole s
  let (fraction, s) ← readFraction s
  let (exponent, s) ← readExponent s
  let n ← numberOf negative whole fraction exponent s
  return (n, s)

theorem length_splitDigits (s : List Char) : (splitDigits s).2.length ≤ s.length :=
  (List.dropWhile_suffix isDigit).length_le

theorem length_splitSign (s : List Char) : (splitSign s).2.length ≤ s.length := by
  unfold splitSign
  split <;> simp

theorem length_readWhole {s r : List Char} {digits : List Nat}
    (h : readWhole s = .ok (digits, r)) : r.length < s.length := by
  unfold readWhole at h
  split at h
  · cases h
  · split at h
    · cases h; simp
    · cases h
  · rename_i c r' _
    split at h
    · rename_i hc
      injection h with h
      have hr : r = (splitDigits (c :: r')).2 := by rw [h]
      have := (List.dropWhile_suffix isDigit (l := r')).length_le
      simp only [hr, splitDigits, List.dropWhile_cons, hc, if_true, List.length_cons]
      omega
    · cases h

theorem length_readFraction {s r : List Char} {digits : Option (List Nat)}
    (h : readFraction s = .ok (digits, r)) : r.length ≤ s.length := by
  unfold readFraction at h
  split at h
  · rename_i r'
    have := length_splitDigits r'
    split at h
    · cases h
    · cases h
    · rename_i hd
      cases h
      rw [hd] at this
      exact Nat.le_succ_of_le this
  · cases h; exact Nat.le_refl _

theorem length_readExponent {s r : List Char} {e : Option Exponent}
    (h : readExponent s = .ok (e, r)) : r.length ≤ s.length := by
  have sign (t : List Char) : (splitExponentSign t).2.length ≤ t.length := by
    unfold splitExponentSign
    split <;> simp
  unfold readExponent at h
  split at h
  · cases h; exact Nat.le_refl _
  · rename_i c t
    split at h
    · have hs := sign t
      split at h
      · cases h
      · rename_i down d u hu
        rw [hu] at hs
        simp only [List.length_cons] at hs
        split at h
        · cases h
          have := (List.dropWhile_suffix isDigit (l := u)).length_le
          simp only [List.length_cons]
          omega
        · cases h
    · cases h; exact Nat.le_refl _

theorem length_readNumber {s r : List Char} {n : Number} (h : readNumber s = .ok (n, r)) :
    r.length < s.length := by
  unfold readNumber at h
  have h0 := length_splitSign s
  generalize hs : splitSign s = p at h h0
  obtain ⟨negative, s0⟩ := p
  simp only [bind, Except.bind, pure, Except.pure] at h h0
  split at h
  · cases h
  · rename_i p hw
    obtain ⟨whole, s1⟩ := p
    have h1 := length_readWhole hw
    simp only at h
    split at h
    · cases h
    · rename_i p hf
      obtain ⟨fraction, s2⟩ := p
      have h2 := length_readFraction hf
      simp only at h
      split at h
      · cases h
      · rename_i p he
        obtain ⟨exponent, s3⟩ := p
        have h3 := length_readExponent he
        simp only at h
        split at h
        · cases h
        · cases h
          omega

end Dialogue.Json
