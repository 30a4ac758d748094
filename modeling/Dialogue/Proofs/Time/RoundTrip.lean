import Dialogue.Time.Writer
import Dialogue.Proofs.Time.Bounds

/-! # Reading a time that was written

A time is read back as it was, to the nanosecond, when its year is one that is written in four
digits. With another year it is not read at all: the zoned form has no sign, and the plain form no
zone. -/

namespace Dialogue.Time

open Text (isDigit padded valueOf)

/-! ## The fields -/

theorem readField_padded {width n : Nat} (some_digit : 0 < width) (bound : n < 10 ^ width)
    (rest : List Char) : readField width (padded width n ++ rest) = .ok (n, rest) := by
  have length := Text.length_padded some_digit bound
  have taken : (padded width n ++ rest).take width = padded width n := List.take_left' length
  have left : (padded width n ++ rest).drop width = rest := List.drop_left' length
  have digits : (padded width n).all isDigit = true :=
    List.all_eq_true.mpr fun _ => Text.isDigit_of_mem_padded
  simp only [readField, taken, left, length, digits, Text.valueOf_padded, if_true,
    Nat.lt_irrefl, if_false]

/-- A field of fixed width begins with a digit. -/
theorem readField_cons_of_not_digit {width : Nat} (some_digit : 0 < width) {c : Char}
    (other : isDigit c = false) (rest : List Char) (found : Nat × List Char) :
    readField width (c :: rest) ≠ .ok found := by
  obtain ⟨w, rfl⟩ := Nat.exists_eq_succ_of_ne_zero (Nat.pos_iff_ne_zero.mp some_digit)
  simp only [readField, List.take_succ_cons, List.all_cons, other, Bool.false_and]
  split
  · intro h
    cases h
  · intro h
    cases h

theorem readMark_cons (mark : Char) (rest : List Char) :
    readMark mark (mark :: rest) = .ok rest := by
  simp [readMark]

theorem readDigits_row {digits : List Char} (all : ∀ c ∈ digits, isDigit c = true)
    (nonempty : digits ≠ []) (short : digits.length ≤ 9) :
    readDigits (some 9) (digits ++ ['Z']) = .ok (valueOf digits, ['Z']) := by
  have after : ∀ n, ((['Z'] : List Char).take n).takeWhile isDigit = [] := by
    intro n
    cases n <;> rfl
  have row : ((digits ++ ['Z']).take 9).takeWhile isDigit = digits := by
    rw [List.take_append, List.take_of_length_le short, List.takeWhile_append_of_pos all, after,
      List.append_nil]
  cases digits with
  | nil => exact absurd rfl nonempty
  | cons c rest =>
    simp only [readDigits, row, List.drop_left]
    rfl

/-- A fraction of a second is read as the number of its digits says. -/
theorem readFraction_row {width n : Nat} (some_digit : 0 < width) (short : width ≤ 9)
    (bound : n < 10 ^ width) :
    readFraction ('.' :: padded width n ++ ['Z']) = .ok (n * 10 ^ (9 - width), ['Z']) := by
  have length := Text.length_padded some_digit bound
  have nonempty : padded width n ≠ [] := List.ne_nil_of_length_pos (by omega)
  have row := readDigits_row (fun _ => Text.isDigit_of_mem_padded) nonempty (by omega)
  have digits : (padded width n ++ ['Z']).length - (['Z'] : List Char).length = width := by
    simp [length]
  simp only [readFraction, List.cons_append, row, Text.valueOf_padded, digits, bind, Except.bind]
  rfl

theorem readFraction_write {nanosecond : Nat} (bound : nanosecond < 1000000000) :
    readFraction (writeFraction nanosecond ++ ['Z']) = .ok (nanosecond, ['Z']) := by
  unfold writeFraction
  split
  · rename_i zero
    rw [zero]
    rfl
  · split
    · rw [readFraction_row (by decide) (by decide) (by omega)]
      have whole : nanosecond / 1000000 * 10 ^ (9 - 3) = nanosecond := by omega
      rw [whole]
    · split
      · rw [readFraction_row (by decide) (by decide) (by omega)]
        have whole : nanosecond / 1000 * 10 ^ (9 - 6) = nanosecond := by omega
        rw [whole]
      · rw [readFraction_row (by decide) (by decide) (by omega)]
        rw [Nat.sub_self, Nat.pow_zero, Nat.mul_one]

/-! ## The time -/

/-- The year is one that is written in four digits, without a sign. -/
def Instant.FourDigits (t : Instant) : Prop := 0 ≤ t.date.year ∧ t.date.year ≤ 9999

theorem Instant.behind_zero {t : Instant} (valid : t.Valid) : t.behind 0 = t := by
  obtain ⟨-, hour, minute, -, -⟩ := valid
  have day : minutesPerDay = 1440 := rfl
  have not_before : ¬ ((t.hour * 60 + t.minute - 0 : Int) < 0) := by omega
  have not_after : ¬ (minutesPerDay ≤ (t.hour * 60 + t.minute - 0 : Int)) := by omega
  have of_day : ((t.hour * 60 + t.minute - 0 : Int) % minutesPerDay).toNat =
      t.hour * 60 + t.minute := by
    rw [day]
    omega
  have same_hour : (t.hour * 60 + t.minute) / 60 = t.hour := by omega
  have same_minute : (t.hour * 60 + t.minute) % 60 = t.minute := by omega
  simp only [Instant.behind, if_neg not_before, if_neg not_after, of_day, same_hour, same_minute]

theorem readZoned_write {t : Instant} (valid : t.Valid) (year : t.FourDigits) :
    readZoned t.write = .ok t := by
  obtain ⟨⟨-, -, month_pos, month_le, day_pos, day_le⟩, hour, minute, second, fraction⟩ :=
    id valid
  have days := daysInMonth_bounds t.date.year t.date.month
  unfold Instant.FourDigits at year
  have year_lt : t.date.year.toNat < 10 ^ 4 := by omega
  have month_lt : t.date.month < 10 ^ 2 := by omega
  have day_lt : t.date.day < 10 ^ 2 := by omega
  have hour_lt : t.hour < 10 ^ 2 := by omega
  have minute_lt : t.minute < 10 ^ 2 := by omega
  have second_lt : t.second < 10 ^ 2 := by omega
  have same_year : (t.date.year.toNat : Int) = t.date.year := Int.toNat_of_nonneg year.1
  have letter : ∀ rest, readDateEnd ('T' :: rest) = .ok rest := fun _ => rfl
  have zone : readZone ['Z'] = .ok (0, []) := rfl
  simp only [Instant.write, writeYear, if_pos year, List.append_assoc, List.cons_append, readZoned,
    readField_padded (by decide) year_lt, readField_padded (by decide) month_lt,
    readField_padded (by decide) day_lt, readField_padded (by decide) hour_lt,
    readField_padded (by decide) minute_lt, readField_padded (by decide) second_lt, readMark_cons,
    letter, readFraction_write fraction, zone, bind, Except.bind, same_year]
  have whole : t.behind 0 = t := Instant.behind_zero valid
  simp [valid, whole]

theorem Instant.parse_text {t : Instant} (valid : t.Valid) (year : t.FourDigits) :
    parse t.text = .ok t := by
  rw [parse, text, String.toList_ofList, readZoned_write valid year]

/-- A year with a sign is not read in the zoned form, and a zone not in the plain one. -/
theorem Instant.year_of_parse_text {t t' : Instant} (h : parse t.text = .ok t') :
    t.FourDigits := by
  rw [parse, text, String.toList_ofList] at h
  cases zoned : readZoned t.write with
  | error fault =>
    rw [zoned] at h
    have letter : 'Z' ∈ t.write := List.mem_append_right _ (List.mem_singleton.mpr rfl)
    exact absurd letter (readUnzoned_eq_ok h).2
  | ok t'' =>
    by_cases year : 0 ≤ t.date.year ∧ t.date.year ≤ 9999
    · exact year
    · obtain ⟨⟨n, rest⟩, read, -⟩ := Except.do_eq_ok.mp zoned
      simp only [Instant.write, writeYear, if_neg year, List.append_assoc, List.cons_append] at read
      have sign : isDigit (if t.date.year < 0 then '-' else '+') = false := by
        split <;> rfl
      exact absurd read (readField_cons_of_not_digit (by decide) sign _ _)

/-- A time is read back exactly when its year is written in four digits, and then as it was. -/
theorem Instant.parse_text_iff {t t' : Instant} (valid : t.Valid) :
    parse t.text = .ok t' ↔ t' = t ∧ t.FourDigits := by
  constructor
  · intro h
    have year := year_of_parse_text h
    rw [parse_text valid year] at h
    exact ⟨(Except.ok.inj h).symm, year⟩
  · rintro ⟨rfl, year⟩
    exact parse_text valid year

end Dialogue.Time
