import Mathlib.Data.List.TakeWhile
import Mathlib.Order.Defs.PartialOrder
import Dialogue.Time.Reader
import Dialogue.Proofs.Except
import Dialogue.Proofs.Text.Digit

/-! # What a reading can be

Every time that is read exists in the calendar: the fields are within their ranges, also after a
zone has moved the time to UTC. A time in the plain form has no zone letter. -/

namespace Dialogue.Time

open Text (isDigit valueOf)

/-! ## The days around a day -/

theorem daysInMonth_bounds (year : Int) (month : Nat) :
    28 ≤ daysInMonth year month ∧ daysInMonth year month ≤ 31 := by
  unfold daysInMonth
  split
  · split <;> decide
  all_goals decide

theorem Date.Valid.previous {d : Date} (valid : d.Valid) (inner : firstYear < d.year) :
    d.previous.Valid := by
  obtain ⟨first, last, month_pos, month_le, day_pos, day_le⟩ := valid
  unfold Date.previous
  split
  · simp only [Date.Valid]
    omega
  · split
    · have days := daysInMonth_bounds d.year (d.month - 1)
      simp only [Date.Valid]
      omega
    · have days : daysInMonth (d.year - 1) 12 = 31 := rfl
      simp only [Date.Valid, days]
      omega

theorem Date.Valid.next {d : Date} (valid : d.Valid) (inner : d.year < lastYear) :
    d.next.Valid := by
  obtain ⟨first, last, month_pos, month_le, day_pos, day_le⟩ := valid
  unfold Date.next
  split
  · simp only [Date.Valid]
    omega
  · split
    · have days := daysInMonth_bounds d.year (d.month + 1)
      simp only [Date.Valid]
      omega
    · have days := daysInMonth_bounds (d.year + 1) 1
      simp only [Date.Valid]
      omega

/-- A point of time exists in UTC too, unless it is in the first or the last year. -/
theorem Instant.Valid.behind {t : Instant} (valid : t.Valid) (after : firstYear < t.date.year)
    (before : t.date.year < lastYear) (offset : Int) : (t.behind offset).Valid := by
  obtain ⟨date, -, -, second, nanosecond⟩ := valid
  have date' : (t.behind offset).date.Valid := by
    simp only [Instant.behind]
    split
    · exact date.previous after
    · split
      · exact date.next before
      · exact date
  have ofDay : ∀ m : Int, (m % minutesPerDay).toNat < 24 * 60 := by
    intro m
    have low := Int.emod_nonneg m (show minutesPerDay ≠ 0 by decide)
    have high := Int.emod_lt_of_pos m (show 0 < minutesPerDay by decide)
    have day : minutesPerDay = 24 * 60 := rfl
    omega
  have minutes := ofDay (t.hour * 60 + t.minute - offset)
  refine ⟨date', ?_, ?_, second, nanosecond⟩
  · show (_ : Nat) / 60 < 24
    omega
  · show (_ : Nat) % 60 < 60
    omega

/-! ## The fields -/

theorem readField_lt {width n : Nat} {s rest : List Char}
    (h : readField width s = .ok (n, rest)) : n < 10 ^ width := by
  simp only [readField] at h
  split at h
  · cases h
  · rename_i enough
    split at h
    · rename_i digits
      obtain ⟨rfl, -⟩ := Prod.mk.inj (Except.ok.inj h)
      have value := Text.valueOf_lt (List.all_eq_true.mp digits)
      have most := List.length_take_le width s
      have length : (s.take width).length = width := by omega
      rwa [length] at value
    · cases h

/-- The digits that are read are a row at the start of the text. -/
theorem readDigits_eq_ok {most : Option Nat} {n : Nat} {s rest : List Char}
    (h : readDigits most s = .ok (n, rest)) :
    ∃ digits, s = digits ++ rest ∧ n = valueOf digits ∧ (∀ c ∈ digits, isDigit c = true) ∧
      ∀ m ∈ most, digits.length ≤ m := by
  have starts : ∀ taken, taken <+: s → s = taken.takeWhile isDigit ++
      s.drop (taken.takeWhile isDigit).length := fun taken begins =>
    (List.prefix_iff_eq_append.mp ((List.takeWhile_prefix _).trans begins)).symm
  have digits : ∀ taken : List Char, ∀ c ∈ taken.takeWhile isDigit, isDigit c = true :=
    fun taken => List.all_eq_true.mp List.all_takeWhile
  cases most with
  | none =>
    simp only [readDigits] at h
    split at h
    · cases h
    · cases h
    · rename_i s _ _ _ _
      obtain ⟨rfl, rfl⟩ := Prod.mk.inj (Except.ok.inj h)
      exact ⟨s.takeWhile isDigit, starts s (List.prefix_refl s), rfl, digits s, by simp⟩
  | some m =>
    simp only [readDigits] at h
    split at h
    · cases h
    · cases h
    · rename_i s _ _ _ _
      obtain ⟨rfl, rfl⟩ := Prod.mk.inj (Except.ok.inj h)
      refine ⟨(s.take m).takeWhile isDigit, starts _ (List.take_prefix m s), rfl, digits _, ?_⟩
      rintro _ ⟨⟩
      exact (List.takeWhile_prefix _).length_le.trans (List.length_take_le m s)

theorem readFraction_lt {n : Nat} {s rest : List Char} (h : readFraction s = .ok (n, rest)) :
    n < 1000000000 := by
  unfold readFraction at h
  split at h
  · rename_i text
    obtain ⟨⟨m, after⟩, read, made⟩ := Except.do_eq_ok.mp h
    obtain ⟨rfl, -⟩ := Prod.mk.inj (Except.ok.inj made)
    obtain ⟨digits, rfl, rfl, all, short⟩ := readDigits_eq_ok read
    have width : (digits ++ after).length - after.length = digits.length := by simp
    have nine : digits.length + (9 - digits.length) = 9 := by
      have := short 9 rfl
      omega
    calc
      valueOf digits * 10 ^ (9 - ((digits ++ after).length - after.length)) =
          valueOf digits * 10 ^ (9 - digits.length) := by rw [width]
      _ < 10 ^ digits.length * 10 ^ (9 - digits.length) :=
        Nat.mul_lt_mul_of_pos_right (Text.valueOf_lt all) (Nat.pow_pos (by decide))
      _ = 1000000000 := by rw [← Nat.pow_add, nine]
  · obtain ⟨rfl, -⟩ := Prod.mk.inj (Except.ok.inj h)
    decide

theorem inRange_eq_ok {low high n : Int} {u : Unit} :
    inRange low high n = .ok u ↔ low ≤ n ∧ n ≤ high := by
  unfold inRange
  split <;> simp_all

/-! ## The zoned form -/

/-- A time in the zoned form exists, and its year has four digits before it is moved to UTC. -/
theorem readZoned_valid {s : List Char} {t : Instant} (h : readZoned s = .ok t) : t.Valid := by
  obtain ⟨⟨year, s⟩, year_read, h⟩ := Except.do_eq_ok.mp h
  obtain ⟨s, -, h⟩ := Except.do_eq_ok.mp h
  obtain ⟨⟨month, s⟩, -, h⟩ := Except.do_eq_ok.mp h
  obtain ⟨s, -, h⟩ := Except.do_eq_ok.mp h
  obtain ⟨⟨day, s⟩, -, h⟩ := Except.do_eq_ok.mp h
  obtain ⟨s, -, h⟩ := Except.do_eq_ok.mp h
  obtain ⟨⟨hour, s⟩, -, h⟩ := Except.do_eq_ok.mp h
  obtain ⟨s, -, h⟩ := Except.do_eq_ok.mp h
  obtain ⟨⟨minute, s⟩, -, h⟩ := Except.do_eq_ok.mp h
  obtain ⟨s, -, h⟩ := Except.do_eq_ok.mp h
  obtain ⟨⟨second, s⟩, -, h⟩ := Except.do_eq_ok.mp h
  obtain ⟨⟨nanosecond, s⟩, -, h⟩ := Except.do_eq_ok.mp h
  obtain ⟨⟨offset, s⟩, -, h⟩ := Except.do_eq_ok.mp h
  by_cases ended : s = []
  · simp only [ended, ne_eq, not_true_eq_false, if_false] at h
    split at h
    · rename_i valid
      obtain rfl := Except.ok.inj h
      have four_digits := readField_lt year_read
      exact valid.behind (by simp only [firstYear]; omega) (by simp only [lastYear]; omega) offset
    · cases h
  · simp [ended, bind, Except.bind] at h

/-! ## The plain form -/

/-- What is left of a text after a reader of the plain form still has its zone letter. -/
def Keeps (s rest : List Char) : Prop := 'Z' ∈ s → 'Z' ∈ rest

theorem dropWhile_keeps {p : Char → Bool} (other : p 'Z' = false) (s : List Char) :
    Keeps s (s.dropWhile p) := by
  intro zone
  rw [← List.takeWhile_append_dropWhile (p := p) (l := s)] at zone
  rcases List.mem_append.mp zone with dropped | left
  · have := List.mem_takeWhile_imp dropped
    rw [other] at this
    cases this
  · exact left

theorem keeps_of_cons {c : Char} (other : c ≠ 'Z') (s : List Char) : Keeps (c :: s) s :=
  fun zone => (List.mem_cons.mp zone).resolve_left other.symm

theorem readMark_keeps {mark : Char} (other : mark ≠ 'Z') {s rest : List Char}
    (h : readMark mark s = .ok rest) : Keeps s rest := by
  cases s with
  | nil => cases h
  | cons c s =>
    simp only [readMark] at h
    split at h
    · rename_i same
      obtain rfl := Except.ok.inj h
      exact keeps_of_cons (same ▸ other) s
    · cases h

theorem readDigits_keeps {most : Option Nat} {n : Nat} {s rest : List Char}
    (h : readDigits most s = .ok (n, rest)) : Keeps s rest := by
  obtain ⟨digits, rfl, -, all, -⟩ := readDigits_eq_ok h
  intro zone
  rcases List.mem_append.mp zone with digit | left
  · exact absurd (all _ digit) (by decide)
  · exact left

theorem readPlainField_keeps {most : Option Nat} {n : Nat} {s rest : List Char}
    (h : readPlainField most s = .ok (n, rest)) : Keeps s rest := by
  obtain ⟨⟨m, left⟩, read, h⟩ := Except.do_eq_ok.mp h
  by_cases large : maxField < m
  · simp [large, bind, Except.bind] at h
  · simp only [large, if_false] at h
    obtain ⟨rfl, rfl⟩ := Prod.mk.inj (Except.ok.inj h)
    exact readDigits_keeps read

theorem readPlainYear_keeps {n : Int} {s rest : List Char}
    (h : readPlainYear s = .ok (n, rest)) : Keeps s rest := by
  have field : ∀ {most : Option Nat} {digits : List Char}
      {sign : Nat × List Char → Int × List Char}, (∀ x, (sign x).2 = x.2) →
      (do
        let year ← (readPlainField most digits).map sign
        inRange (-0x80000000) 0x7FFFFFFF year.1
        .ok (year.1, year.2)) = Except.ok (n, rest) → Keeps digits rest := by
    intro most digits sign same h
    obtain ⟨year, read, h⟩ := Except.do_eq_ok.mp h
    obtain ⟨u, -, made⟩ := Except.do_eq_ok.mp h
    obtain ⟨x, digits_read, rfl⟩ := Except.map_eq_ok.mp read
    obtain ⟨-, rfl⟩ := Prod.mk.inj (Except.ok.inj made)
    rw [same]
    exact readPlainField_keeps digits_read
  intro zone
  have trimmed := dropWhile_keeps (p := Text.isBlank) (by decide) s zone
  rw [← Text.trimStart] at trimmed
  simp only [readPlainYear] at h
  split at h
  · rename_i digits starts
    rw [starts] at trimmed
    exact field (fun _ => rfl) h (keeps_of_cons (by decide) digits trimmed)
  · rename_i digits starts
    rw [starts] at trimmed
    exact field (fun _ => rfl) h (keeps_of_cons (by decide) digits trimmed)
  · exact field (fun _ => rfl) h trimmed

theorem readPlain_eq_ok {low high n : Nat} {s rest : List Char}
    (h : readPlain low high s = .ok (n, rest)) : low ≤ n ∧ n ≤ high ∧ Keeps s rest := by
  obtain ⟨⟨m, left⟩, read, h⟩ := Except.do_eq_ok.mp h
  obtain ⟨u, within, h⟩ := Except.do_eq_ok.mp h
  obtain ⟨rfl, rfl⟩ := Prod.mk.inj (Except.ok.inj h)
  obtain ⟨low_le, le_high⟩ := inRange_eq_ok.mp within
  refine ⟨by omega, by omega, fun zone => ?_⟩
  exact readPlainField_keeps read (dropWhile_keeps (by decide) s zone)

theorem readFraction_keeps {n : Nat} {s rest : List Char}
    (h : readFraction s = .ok (n, rest)) : Keeps s rest := by
  unfold readFraction at h
  split at h
  · rename_i text
    obtain ⟨⟨m, after⟩, read, made⟩ := Except.do_eq_ok.mp h
    obtain ⟨-, rfl⟩ := Prod.mk.inj (Except.ok.inj made)
    intro zone
    exact dropWhile_keeps (by decide) after
      (readDigits_keeps read (keeps_of_cons (by decide) text zone))
  · obtain ⟨-, rfl⟩ := Prod.mk.inj (Except.ok.inj h)
    exact id

/-- A time in the plain form exists, and has no zone letter. -/
theorem readUnzoned_eq_ok {s : List Char} {t : Instant} (h : readUnzoned s = .ok t) :
    t.Valid ∧ 'Z' ∉ s := by
  obtain ⟨⟨year, s₁⟩, year_read, h⟩ := Except.do_eq_ok.mp h
  obtain ⟨s₂, mark₁, h⟩ := Except.do_eq_ok.mp h
  obtain ⟨⟨month, s₃⟩, month_read, h⟩ := Except.do_eq_ok.mp h
  obtain ⟨s₄, mark₂, h⟩ := Except.do_eq_ok.mp h
  obtain ⟨⟨day, s₅⟩, day_read, h⟩ := Except.do_eq_ok.mp h
  obtain ⟨s₆, mark₃, h⟩ := Except.do_eq_ok.mp h
  obtain ⟨⟨hour, s₇⟩, hour_read, h⟩ := Except.do_eq_ok.mp h
  obtain ⟨s₈, mark₄, h⟩ := Except.do_eq_ok.mp h
  obtain ⟨⟨minute, s₉⟩, minute_read, h⟩ := Except.do_eq_ok.mp h
  obtain ⟨s₁₀, mark₅, h⟩ := Except.do_eq_ok.mp h
  obtain ⟨⟨second, s₁₁⟩, second_read, h⟩ := Except.do_eq_ok.mp h
  obtain ⟨⟨nanosecond, s₁₂⟩, fraction_read, h⟩ := Except.do_eq_ok.mp h
  obtain ⟨-, -, month_keeps⟩ := readPlain_eq_ok month_read
  obtain ⟨-, -, day_keeps⟩ := readPlain_eq_ok day_read
  obtain ⟨-, hour_le, hour_keeps⟩ := readPlain_eq_ok hour_read
  obtain ⟨-, minute_le, minute_keeps⟩ := readPlain_eq_ok minute_read
  obtain ⟨-, second_le, second_keeps⟩ := readPlain_eq_ok second_read
  by_cases ended : s₁₂ = []
  · simp only [ended, ne_eq, not_true_eq_false, if_false] at h
    split at h
    · rename_i date
      obtain rfl := Except.ok.inj h
      constructor
      · exact ⟨date, by simp only; omega, by simp only; omega, second_le,
          readFraction_lt fraction_read⟩
      · intro zone
        -- Every step leaves the letter where it is, so it would be left at the end.
        have after_date := day_keeps (readMark_keeps (by decide) mark₂ (month_keeps
          (readMark_keeps (by decide) mark₁ (readPlainYear_keeps year_read zone))))
        have after_minute := minute_keeps (readMark_keeps (by decide) mark₄ (hour_keeps
          (readMark_keeps (by decide) mark₃ after_date)))
        have at_end := readFraction_keeps fraction_read (second_keeps
          (readMark_keeps (by decide) mark₅ after_minute))
        simp [ended] at at_end
    · cases h
  · simp [ended, bind, Except.bind] at h

/-- A time that is read exists. -/
theorem Instant.valid_of_parse {text : String} {t : Instant} (h : parse text = .ok t) :
    t.Valid := by
  unfold parse at h
  cases zoned : readZoned text.toList with
  | ok t' =>
    simp only [zoned, Except.ok.injEq] at h
    exact h ▸ readZoned_valid zoned
  | error fault =>
    simp only [zoned] at h
    exact (readUnzoned_eq_ok h).1

end Dialogue.Time
