import Mathlib.Data.List.TakeWhile
import Dialogue.Text.Blank

/-! # Trimming

What trimming leaves neither begins nor ends with a blank (`Tight`), and blanks around a text do not
change what trimming leaves of it. -/

namespace Dialogue.Text

variable {s before after : List Char}

/-- The text neither begins nor ends with a blank. -/
structure Tight (s : List Char) : Prop where
  first : ∀ c ∈ s.head?, isBlank c = false
  last : ∀ c ∈ s.getLast?, isBlank c = false

/-- The text holds nothing but blanks. -/
def Blank (s : List Char) : Prop := ∀ c ∈ s, isBlank c = true

theorem Blank.reverse (blank : Blank s) : Blank s.reverse := fun c member =>
  blank c (List.mem_reverse.mp member)

theorem dropWhile_of_first (first : ∀ c ∈ s.head?, isBlank c = false) :
    s.dropWhile isBlank = s := by
  cases s with
  | nil => rfl
  | cons c rest => rw [List.dropWhile_cons, first c rfl, if_neg Bool.false_ne_true]

theorem head_dropWhile (s : List Char) : ∀ c ∈ (s.dropWhile isBlank).head?, isBlank c = false := by
  intro c first
  have not_blank := List.head?_dropWhile_not isBlank s
  rw [first] at not_blank
  simpa using not_blank

theorem Tight.reverse (tight : Tight s) : Tight s.reverse :=
  ⟨by rw [List.head?_reverse]; exact tight.last, by rw [List.getLast?_reverse]; exact tight.first⟩

theorem tight_of_ends {c d : Char} (first : isBlank c = false) (last : isBlank d = false)
    (body : List Char) : Tight (c :: (body ++ [d])) := by
  refine ⟨fun c' h => Option.some.inj h ▸ first, fun d' h => ?_⟩
  rw [← List.cons_append, List.getLast?_concat] at h
  exact Option.some.inj h ▸ last

theorem Tight.trim_eq (tight : Tight s) : trim s = s := by
  rw [trim, trimEnd, trimStart, dropWhile_of_first tight.first,
    dropWhile_of_first tight.reverse.first, List.reverse_reverse]

theorem trimEnd_prefix (s : List Char) : trimEnd s <+: s := by
  have suffix := List.dropWhile_suffix isBlank (l := s.reverse)
  rwa [← List.reverse_prefix, List.reverse_reverse] at suffix

theorem trim_tight (s : List Char) : Tight (trim s) := by
  constructor
  · intro c first
    obtain ⟨rest, whole⟩ := trimEnd_prefix (trimStart s)
    refine head_dropWhile s c ?_
    rw [trim] at first
    rw [← trimStart, ← whole, List.head?_append]
    exact Option.mem_def.mpr (by rw [first]; rfl)
  · rw [trim, trimEnd, List.getLast?_reverse]
    exact head_dropWhile _

theorem trim_trim (s : List Char) : trim (trim s) = trim s := (trim_tight s).trim_eq

/-! ## Blanks around a text -/

/-- The second text is the first with blanks around it. -/
def Around (s text : List Char) : Prop :=
  ∃ before after, Blank before ∧ Blank after ∧ text = before ++ s ++ after

theorem around_self (s : List Char) : Around s s :=
  ⟨[], [], List.forall_mem_nil _, List.forall_mem_nil _, (List.append_nil s).symm⟩

/-- A text is what trimming leaves of it, with blanks around it. -/
theorem around_trim (s : List Char) : Around (trim s) s := by
  have taken : ∀ s : List Char, Blank (s.takeWhile isBlank) := fun s c member =>
    List.mem_takeWhile_imp member
  refine ⟨s.takeWhile isBlank, ((trimStart s).reverse.takeWhile isBlank).reverse, taken s,
    (taken _).reverse, ?_⟩
  rw [trim, trimEnd, List.append_assoc, ← List.reverse_append, List.takeWhile_append_dropWhile,
    List.reverse_reverse, trimStart, List.takeWhile_append_dropWhile]

theorem Around.trans {t text : List Char} (inner : Around s t) (outer : Around t text) :
    Around s text := by
  obtain ⟨before, after, blank, blank', rfl⟩ := inner
  obtain ⟨first, last, blankFirst, blankLast, rfl⟩ := outer
  exact ⟨first ++ before, after ++ last, List.forall_mem_append.mpr ⟨blankFirst, blank⟩,
    List.forall_mem_append.mpr ⟨blank', blankLast⟩, by simp⟩

theorem Around.reverse {text : List Char} (around : Around s text) :
    Around s.reverse text.reverse := by
  obtain ⟨before, after, blank, blank', rfl⟩ := around
  exact ⟨after.reverse, before.reverse, blank'.reverse, blank.reverse, by simp⟩

/-- Blanks around a text that has none at its ends are trimmed. -/
theorem Tight.trim_around {text : List Char} (tight : Tight s) (around : Around s text) :
    trim text = s := by
  obtain ⟨before, after, blank, blank', rfl⟩ := around
  cases s with
  | nil =>
    have none_left : (before ++ [] ++ after).dropWhile isBlank = [] := by
      rw [List.append_nil, List.dropWhile_append_of_pos blank, List.dropWhile_eq_nil_iff]
      exact blank'
    rw [trim, trimEnd, trimStart, none_left]
    rfl
  | cons c rest =>
    have starts : trimStart (before ++ (c :: rest) ++ after) = (c :: rest) ++ after := by
      rw [trimStart, List.append_assoc, List.dropWhile_append_of_pos blank]
      exact dropWhile_of_first tight.first
    rw [trim, starts, trimEnd, List.reverse_append, List.dropWhile_append_of_pos blank'.reverse,
      dropWhile_of_first tight.reverse.first, List.reverse_reverse]

/-- Blanks around a text do not change what is left of it. -/
theorem Around.trim_eq {text : List Char} (around : Around s text) : trim text = trim s :=
  (trim_tight s).trim_around ((around_trim s).trans around)

theorem trim_reverse (s : List Char) : trim s.reverse = (trim s).reverse :=
  (trim_tight s).reverse.trim_around (around_trim s).reverse

/-! ## The first and the last character -/

theorem trimEnd_cons {c : Char} (used : isBlank c = false) (s : List Char) :
    trimEnd (c :: s) = c :: trimEnd s := by
  have alone : [c].dropWhile isBlank = [c] := by simp [used]
  rw [trimEnd, List.reverse_cons, List.dropWhile_append, trimEnd]
  split
  · rename_i none_left
    rw [List.isEmpty_iff.mp none_left, alone]
    rfl
  · rw [List.reverse_append]
    rfl

/-- The first character that is not blank stays the first, whatever comes after it. -/
theorem head?_trim_append {c : Char} (first : (trim s).head? = some c) (more : List Char) :
    (trim (s ++ more)).head? = some c := by
  have used := (trim_tight s).first c first
  obtain ⟨before, after, blank, -, whole⟩ := around_trim s
  obtain ⟨rest, left⟩ := List.head?_eq_some_iff.mp first
  have around : Around (c :: (rest ++ after ++ more)) (s ++ more) := by
    refine ⟨before, [], blank, List.forall_mem_nil _, ?_⟩
    rw [left] at whole
    rw [whole]
    simp
  have starts : trimStart (c :: (rest ++ after ++ more)) = c :: (rest ++ after ++ more) :=
    dropWhile_of_first fun d same => Option.some.inj same ▸ used
  rw [around.trim_eq, trim, starts, trimEnd_cons used]
  rfl

/-- The last character that is not blank stays the last, whatever comes before it. -/
theorem getLast?_trim_append {c : Char} (last : (trim s).getLast? = some c) (more : List Char) :
    (trim (more ++ s)).getLast? = some c := by
  rw [← List.head?_reverse, ← trim_reverse] at last ⊢
  rw [List.reverse_append]
  exact head?_trim_append last _

end Dialogue.Text
