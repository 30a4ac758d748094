import Dialogue.Text.Utf8

/-! # Shortened texts

A text that is over a budget of bytes is cut where the budget ends, or where the character begins
in which the budget ends. So what is shown of it is its longest beginning, in whole characters, that
fits the budget. A character takes at most four bytes, so at most three bytes of the budget are left
over. -/

namespace Dialogue.Text

variable {budget : Nat} {s p : String}

/-! ## The last boundary -/

/-- The search stops at a boundary within the bytes it started from, and passes none over. -/
theorem le_lastBoundary_iff {place : s.Pos} {n : Nat} :
    place ≤ lastBoundary s n ↔ place.offset.byteIdx ≤ n := by
  induction n with
  | zero => rw [lastBoundary, String.Pos.le_iff, String.Pos.Raw.le_iff]; rfl
  | succ n ih =>
    rw [lastBoundary]
    split
    · rw [String.Pos.le_iff, String.Pos.Raw.le_iff]
    · rename_i inside
      -- The search only goes on from where there is no boundary, so it loses none.
      have elsewhere : place.offset.byteIdx ≠ n + 1 := fun same => inside (same ▸ place.isValid)
      rw [ih]
      omega

theorem offset_lastBoundary_le (s : String) (n : Nat) : (lastBoundary s n).offset.byteIdx ≤ n :=
  le_lastBoundary_iff.mp (Std.le_refl _)

/-! ## The longest beginning that fits -/

theorem toList_prefix_iff : p.toList <+: s.toList ↔ ∃ rest, s = p ++ rest := by
  constructor
  · rintro ⟨rest, whole⟩
    refine ⟨String.ofList rest, String.toList_inj.mp ?_⟩
    rw [String.toList_append, String.toList_ofList, whole]
  · rintro ⟨rest, rfl⟩
    exact ⟨rest.toList, String.toList_append.symm⟩

/-- The number of bytes before a place is that of the text before it. -/
theorem byteIdx_of_splits {place : s.Pos} {rest : String} (splits : place.Splits p rest) :
    place.offset.byteIdx = p.utf8ByteSize := by
  rw [splits.offset_eq_rawEndPos, String.byteIdx_rawEndPos]

/-- The second text is the longest beginning of the first, in whole characters, that takes at most
so many bytes. -/
structure LongestWithin (budget : Nat) (s p : String) : Prop where
  beginning : p.toList <+: s.toList
  fits : p.utf8ByteSize ≤ budget
  longest : ∀ q : String, q.toList <+: s.toList → q.utf8ByteSize ≤ budget → q.toList <+: p.toList

/-- What stands before the last boundary is the longest beginning that fits. -/
theorem longestWithin_lastBoundary (budget : Nat) (s : String) :
    LongestWithin budget s (s.sliceTo (lastBoundary s budget)).copy where
  beginning := toList_prefix_iff.mpr ⟨_, (lastBoundary s budget).splits.eq_append⟩
  fits := byteIdx_of_splits (lastBoundary s budget).splits ▸ offset_lastBoundary_le s budget
  longest q beginning fits := by
    obtain ⟨rest, whole⟩ := toList_prefix_iff.mp beginning
    have splits := String.Pos.splits_ofEqAppend whole
    have before := le_lastBoundary_iff.mpr (byteIdx_of_splits splits ▸ fits)
    obtain ⟨more, longer, -⟩ :=
      (splits.le_iff_exists_eq_append (lastBoundary s budget).splits).mp before
    exact toList_prefix_iff.mpr ⟨more, longer⟩

namespace LongestWithin

/-- One character more would not fit. -/
theorem next_over (within : LongestWithin budget s p) {c : Char} {rest : List Char}
    (next : s.toList = p.toList ++ c :: rest) : budget < p.utf8ByteSize + c.utf8Size := by
  have beginning : (p.push c).toList <+: s.toList := by
    rw [String.toList_push, next]
    exact ⟨rest, (List.append_cons ..).symm⟩
  refine Nat.lt_of_not_le fun fits => ?_
  rw [← String.utf8ByteSize_push] at fits
  have longer := (within.longest (p.push c) beginning fits).length_le
  rw [String.toList_push, List.length_append] at longer
  exact Nat.not_succ_le_self _ longer

/-- Of a budget that a text is over, less is left than a character may take. -/
theorem near (within : LongestWithin budget s p) (exceeds : budget < s.utf8ByteSize) :
    budget ≤ p.utf8ByteSize + 3 := by
  obtain ⟨rest, whole⟩ := within.beginning
  cases rest with
  | nil =>
    have same : p = s := String.toList_inj.mp (by rw [← whole, List.append_nil])
    exact absurd (same ▸ within.fits) (Nat.not_le.mpr exceeds)
  | cons c rest =>
    have beyond := within.next_over whole.symm
    have size := c.utf8Size_le_four
    omega

/-- Nothing is left of a text whose first character does not fit. -/
theorem eq_empty (within : LongestWithin budget s p) {c : Char} (first : c ∈ s.toList.head?)
    (wide : budget < c.utf8Size) : p = "" := by
  obtain ⟨rest, whole⟩ := within.beginning
  rw [← String.toList_eq_nil_iff]
  cases shown : p.toList with
  | nil => rfl
  | cons d more =>
    rw [← whole, shown] at first
    obtain rfl : d = c := Option.some.inj first
    have same : p = String.singleton d ++ String.ofList more :=
      String.toList_inj.mp (by simp [shown])
    have fits := within.fits
    rw [same, String.utf8ByteSize_append, String.utf8ByteSize_singleton] at fits
    omega

end LongestWithin

/-! ## What is shown -/

/-- A text over a budget is cut at a place, which is a boundary between characters. -/
structure CutsAt (budget : Nat) (s : String) (place : s.Pos) : Prop where
  /-- From the end of the budget back to the place there is no other boundary. -/
  last : ∀ n, place.offset.byteIdx < n → n ≤ budget → ¬ String.Pos.Raw.IsValid s ⟨n⟩
  /-- What stands before the place is as much of the text as fits. -/
  longest : LongestWithin budget s (s.sliceTo place).copy
  /-- It takes the budget but for at most three bytes. -/
  near : budget ≤ (s.sliceTo place).copy.utf8ByteSize + 3
  /-- It is empty if not even the first character fits. -/
  none : ∀ c ∈ s.toList.head?, budget < c.utf8Size → (s.sliceTo place).copy = ""

theorem cutsAt_lastBoundary (exceeds : budget < s.utf8ByteSize) :
    CutsAt budget s (lastBoundary s budget) where
  last n after reached boundary := by
    have before : (⟨⟨n⟩, boundary⟩ : s.Pos) ≤ lastBoundary s budget :=
      le_lastBoundary_iff.mpr reached
    exact Nat.not_le.mpr after before
  longest := longestWithin_lastBoundary budget s
  near := (longestWithin_lastBoundary budget s).near exceeds
  none _ first wide := (longestWithin_lastBoundary budget s).eq_empty first wide

/-- What is shown of a text under a budget of bytes. -/
structure Shows (budget : Nat) (s t : String) : Prop where
  /-- A text that fits is shown as it is. -/
  whole : s.utf8ByteSize ≤ budget → t = s
  /-- Of any other what stands before the cut is shown, and an ellipsis. -/
  part : budget < s.utf8ByteSize →
    ∃ place : s.Pos, CutsAt budget s place ∧ t = (s.sliceTo place).copy ++ "…"

/-- Whatever a text is and however small the budget, the text is cut between characters and no more
than it has to be. -/
theorem shortened_shows (budget : Nat) (s : String) : Shows budget s (shortened budget s) where
  whole fits := if_pos fits
  part exceeds := ⟨lastBoundary s budget, cutsAt_lastBoundary exceeds, if_neg (Nat.not_le.mpr exceeds)⟩

example : shortened 3 "ééé" = "é…" := by decide

end Dialogue.Text
