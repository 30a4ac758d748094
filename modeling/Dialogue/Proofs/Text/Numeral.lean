import Dialogue.Text.Numeral
import Dialogue.Proofs.Text.Digit

/-! # What numerals denote

A text denotes a number when it is a row of digits, perhaps after a plus sign, that stands for it.
Exactly the texts that denote a number within the limit are read, as that number. -/

namespace Dialogue.Text

variable {limit acc n : Nat} {s : List Char}

/-- The text is a row of digits that stands for `n`, perhaps after a plus sign. -/
def Denotes (s : List Char) (n : Nat) : Prop :=
  ∃ digits, (s = digits ∨ s = '+' :: digits) ∧ digits ≠ [] ∧ (∀ c ∈ digits, isDigit c = true) ∧
    valueOf digits = n

theorem readDigits_eq_ok (small : acc ≤ limit) :
    readDigits limit acc s = .ok n ↔ (∀ c ∈ s, isDigit c = true) ∧
      s.foldl (fun n c => n * 10 + digitValue c) acc = n ∧ n ≤ limit := by
  induction s generalizing acc with
  | nil =>
    rw [readDigits]
    constructor
    · intro read
      obtain rfl := Except.ok.inj read
      exact ⟨List.forall_mem_nil _, rfl, small⟩
    · rintro ⟨-, value, -⟩
      exact congrArg Except.ok value
  | cons c rest ih =>
    rw [readDigits, List.forall_mem_cons, List.foldl_cons]
    cases digit : isDigit c with
    | false => simp
    | true =>
      simp only [Bool.not_true, Bool.false_eq_true, if_false, true_and]
      by_cases fits : acc * 10 + digitValue c ≤ limit
      · rw [if_pos fits, ih fits]
      · rw [if_neg fits]
        constructor
        · intro read
          cases read
        · rintro ⟨-, value, bound⟩
          have more := le_foldl_digits (rest.map digitValue) (acc * 10 + digitValue c)
          rw [List.foldl_map, value] at more
          exact absurd (Nat.le_trans more bound) fits

/-- A row of digits is read as the number that it stands for. -/
theorem readDigits_zero : readDigits limit 0 s = .ok n ↔
    (∀ c ∈ s, isDigit c = true) ∧ valueOf s = n ∧ n ≤ limit :=
  readDigits_eq_ok (Nat.zero_le limit)

theorem not_isDigit_plus : isDigit '+' = false := rfl

/-- The texts that are read as numerals are those that denote a number within the limit. -/
theorem readNumeral_eq_ok : readNumeral limit s = .ok n ↔ Denotes s n ∧ n ≤ limit := by
  unfold readNumeral
  split
  · refine iff_of_false (fun read => by cases read) ?_
    rintro ⟨⟨digits, same | same, nonempty, -⟩, -⟩
    · exact nonempty same.symm
    · cases same
  · rename_i c rest
    rw [readDigits_zero]
    constructor
    · rintro ⟨all, value, bound⟩
      exact ⟨⟨c :: rest, .inr rfl, List.cons_ne_nil c rest, all, value⟩, bound⟩
    · rintro ⟨⟨digits, rfl | same, -, all, value⟩, bound⟩
      · have plus := all '+' (List.mem_cons_self ..)
        rw [not_isDigit_plus] at plus
        cases plus
      · cases same
        exact ⟨all, value, bound⟩
  · rename_i nonempty unsigned
    rw [readDigits_zero]
    constructor
    · rintro ⟨all, value, bound⟩
      exact ⟨⟨s, .inl rfl, nonempty, all, value⟩, bound⟩
    · rintro ⟨⟨digits, rfl | rfl, some_digit, all, value⟩, bound⟩
      · exact ⟨all, value, bound⟩
      · obtain ⟨c, rest, rfl⟩ := List.exists_cons_of_ne_nil some_digit
        exact absurd rfl (unsigned c rest)

/-- The decimal text of a number denotes it. -/
theorem denotes_toString (n : Nat) : Denotes (toString n).toList n := by
  have text : (toString n).toList = decimal n := toList_repr n
  rw [text]
  exact ⟨decimal n, .inl rfl, Nat.toDigits_ne_nil, fun _ => isDigit_of_mem_decimal, valueOf_decimal n⟩

end Dialogue.Text
