import Mathlib.Algebra.Ring.Nat
import Mathlib.Data.List.Induction
import Dialogue.Text.Digit

/-! # Rows of digits

The number that a row of digits stands for is bounded by the length of the row, and a number that
is written in digits is what the row stands for. -/

namespace Dialogue.Text

theorem isDigit_eq (c : Char) : isDigit c = c.isDigit := by
  simp [isDigit, Char.isDigit, Char.le_def]

theorem digitValue_le {c : Char} (digit : isDigit c = true) : digitValue c ≤ 9 := by
  simp only [isDigit, Bool.and_eq_true, decide_eq_true_eq, Char.le_def] at digit
  have bound : c.toNat ≤ 57 := digit.2
  have zero : '0'.toNat = 48 := rfl
  rw [digitValue, zero]
  omega

theorem valueOf_append (digits more : List Char) :
    valueOf (digits ++ more) = more.foldl (fun n c => n * 10 + digitValue c) (valueOf digits) := by
  rw [valueOf, List.foldl_append, valueOf]

theorem valueOf_lt {digits : List Char} (all : ∀ c ∈ digits, isDigit c = true) :
    valueOf digits < 10 ^ digits.length := by
  -- The induction goes over the digits from the last to the first, as their values are added up.
  induction digits using List.reverseRecOn with
  | nil => simp [valueOf]
  | append_singleton digits c ih =>
    have before := ih fun d member => all d (by simp [member])
    have last := digitValue_le (all c (by simp))
    simp only [valueOf_append, List.foldl_cons, List.foldl_nil, List.length_append,
      List.length_singleton, Nat.pow_succ]
    omega

theorem valueOf_eq_ofDigitChars (digits : List Char) :
    valueOf digits = Nat.ofDigitChars 10 digits 0 := by
  have step : (fun (n : Nat) (c : Char) => n * 10 + digitValue c) =
      fun n c => 10 * n + (c.toNat - '0'.toNat) := by
    funext n c
    rw [Nat.mul_comm, digitValue]
  rw [valueOf, step, Nat.ofDigitChars]

theorem valueOf_decimal (n : Nat) : valueOf (decimal n) = n :=
  (valueOf_eq_ofDigitChars _).trans Nat.ofDigitChars_ten_toDigits

theorem isDigit_of_mem_decimal {n : Nat} {c : Char} (member : c ∈ decimal n) :
    isDigit c = true := by
  rw [isDigit_eq]
  exact Nat.isDigit_of_mem_toDigits (by decide) (by decide) member

theorem toList_repr (n : Nat) : n.repr.toList = decimal n := by
  rw [Nat.repr_eq_ofList_toDigits, String.toList_ofList, decimal]

/-- Digits that come after a number make it no smaller. -/
theorem le_foldl_digits (digits : List Nat) : ∀ n, n ≤ digits.foldl (fun n d => n * 10 + d) n := by
  induction digits with
  | nil => exact Nat.le_refl
  | cons d rest ih =>
    intro n
    have more := ih (n * 10 + d)
    rw [List.foldl_cons]
    omega

theorem valueOf_padded (width n : Nat) : valueOf (padded width n) = n := by
  have zeros : ∀ k, Nat.ofDigitChars 10 (List.replicate k '0') 0 = 0 := by
    intro k
    rw [Nat.ofDigitChars_replicate_zero, Nat.mul_zero]
  rw [valueOf_eq_ofDigitChars, padded, decimal, Nat.ofDigitChars, List.foldl_append,
    ← Nat.ofDigitChars, ← Nat.ofDigitChars, zeros]
  exact Nat.ofDigitChars_ten_toDigits

theorem isDigit_of_mem_padded {width n : Nat} {c : Char} (member : c ∈ padded width n) :
    isDigit c = true := by
  rcases List.mem_append.mp member with zero | digit
  · rw [List.eq_of_mem_replicate zero]
    rfl
  · exact isDigit_of_mem_decimal digit

theorem length_padded {width n : Nat} (some_digit : 0 < width) (bound : n < 10 ^ width) :
    (padded width n).length = width := by
  have fits : (decimal n).length ≤ width :=
    (Nat.length_toDigits_le_iff (by decide) some_digit).mpr bound
  rw [padded, List.length_append, List.length_replicate]
  omega

end Dialogue.Text
