import Dialogue.Text.Split

/-! # The parts of a text

Splitting a text undoes joining: the parts of a text, with the mark between them, make the text
again, and a text that is joined at a mark is split there. -/

namespace Dialogue.Text

variable {p : Char → Bool} {mark : Char} {s t : List Char}

theorem splitBy_ne_nil (p : Char → Bool) (s : List Char) : splitBy p s ≠ [] := by
  cases s with
  | nil => exact List.cons_ne_nil _ _
  | cons c rest =>
    rw [splitBy]
    split
    · exact List.cons_ne_nil _ _
    · split <;> exact List.cons_ne_nil _ _

/-- A text is split at every mark of it. -/
theorem splitBy_append {c : Char} (cuts : p c = true) (s t : List Char) :
    splitBy p (s ++ c :: t) = splitBy p s ++ splitBy p t := by
  induction s with
  | nil => simp [splitBy, cuts]
  | cons d rest ih =>
    rw [List.cons_append, splitBy, splitBy, ih]
    split
    · rfl
    · cases parts : splitBy p rest with
      | nil => exact absurd parts (splitBy_ne_nil p rest)
      | cons part more => rfl

theorem splitBy_of_none (none : ∀ c ∈ s, p c = false) : splitBy p s = [s] := by
  induction s with
  | nil => rfl
  | cons c rest ih =>
    obtain ⟨first, others⟩ := List.forall_mem_cons.mp none
    rw [splitBy, first, ih others]
    rfl

/-- The parts of a text make the text again. -/
theorem intercalate_splitBy (mark : Char) (s : List Char) :
    [mark].intercalate (splitBy (· == mark) s) = s := by
  induction s with
  | nil => rfl
  | cons c rest ih =>
    rw [splitBy]
    cases parts : splitBy (· == mark) rest with
    | nil => exact absurd parts (splitBy_ne_nil _ rest)
    | cons part more =>
      rw [parts] at ih
      by_cases same : c = mark
      · subst same
        rw [if_pos (beq_self_eq_true c), List.intercalate_cons_cons, ih]
        rfl
      · rw [if_neg (by simpa using same)]
        dsimp only
        cases more with
        | nil =>
          rw [List.intercalate_singleton] at ih ⊢
          rw [ih]
        | cons next later =>
          rw [List.intercalate_cons_cons] at ih ⊢
          rw [List.cons_append, List.cons_append, ih]

theorem splitBy_injective (same : splitBy (· == mark) s = splitBy (· == mark) t) : s = t := by
  rw [← intercalate_splitBy mark s, same, intercalate_splitBy]

end Dialogue.Text
