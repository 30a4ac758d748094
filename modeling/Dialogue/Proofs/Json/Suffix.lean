import Mathlib.Data.List.TakeWhile
import Dialogue.Json.Reader
import Dialogue.Proofs.Except

/-! # What reading leaves

Every reader takes characters from the front of a text and leaves the rest as it is. So the text of
an object ends with its closing brace, and no text that ends otherwise is an object. -/

namespace Dialogue.Json

open Text (isDigit)

variable {α β : Type} {s t : List Char} {c : Char} {room : Nat}

theorem skipSpace_suffix (s : List Char) : skipSpace s <:+ s := List.dropWhile_suffix isSpace

/-- What is left after the first token of a text. -/
theorem suffix_of_skipSpace (next : skipSpace s = c :: t) : t <:+ s :=
  (List.suffix_cons c t).trans (next ▸ skipSpace_suffix s)

/-! ## Strings -/

theorem readHex_suffix {n : Nat} {rest : Rest s} (h : readHex s = .ok (n, rest)) :
    rest.1 <:+ s := by
  unfold readHex at h
  split at h
  · rename_i a b c d r
    split at h
    · cases h
      exact ⟨[a, b, c, d], rfl⟩
    · cases h
  · split at h <;> cases h

theorem readLowSurrogate_suffix {high : Nat} {rest : Rest s}
    (h : readLowSurrogate high s = .ok (c, rest)) : rest.1 <:+ s := by
  unfold readLowSurrogate at h
  split at h
  · cases h
  · cases h
  · rename_i r
    obtain ⟨⟨low, left⟩, read, h⟩ := Except.do_eq_ok.mp h
    dsimp only at h
    split at h
    · obtain ⟨-, rfl⟩ := Prod.mk.inj (Except.ok.inj h)
      exact (readHex_suffix read).trans ⟨['\\', 'u'], rfl⟩
    · cases h
  · cases h
  · cases h

theorem readCodePoint_suffix {rest : Rest s} (h : readCodePoint s = .ok (c, rest)) :
    rest.1 <:+ s := by
  unfold readCodePoint at h
  obtain ⟨⟨n, left⟩, read, h⟩ := Except.do_eq_ok.mp h
  have first := readHex_suffix read
  dsimp only at h
  split at h
  · cases h
  · split at h
    · obtain ⟨⟨low, left'⟩, read', h⟩ := Except.do_eq_ok.mp h
      cases h
      exact (readLowSurrogate_suffix read').trans first
    · cases h
      exact first

theorem readEscape_suffix {rest : Rest s} (h : readEscape s = .ok (c, rest)) : rest.1 <:+ s := by
  unfold readEscape at h
  split at h
  · cases h
  · rename_i r
    obtain ⟨⟨c', left⟩, read, h⟩ := Except.do_eq_ok.mp h
    cases h
    exact (readCodePoint_suffix read).trans (List.suffix_cons 'u' r)
  · rename_i d r _
    have one : ∀ e, (.ok (e, ⟨r, Nat.lt_succ_self _⟩) : Except Fault (Char × Rest (d :: r))) =
        .ok (c, rest) → rest.1 <:+ d :: r := by
      intro e h
      cases h
      exact List.suffix_cons d r
    dsimp only at h
    repeat' split at h
    all_goals first | exact one _ h | cases h

theorem readString_suffix {cs : List Char} {rest : Rest s} (h : readString s = .ok (cs, rest)) :
    rest.1 <:+ s := by
  fun_induction readString s generalizing cs with
  | case1 => cases h
  | case2 r =>
    cases h
    exact List.suffix_cons '"' r
  | case3 r more =>
    obtain ⟨⟨c, left⟩, read, h⟩ := Except.do_eq_ok.mp h
    obtain ⟨⟨cs', left'⟩, read', h⟩ := Except.do_eq_ok.mp h
    cases h
    exact ((more left read').trans (readEscape_suffix read)).trans (List.suffix_cons '\\' r)
  | case4 => cases h
  | case5 c r quote backslash plain more =>
    obtain ⟨⟨cs', left⟩, read, h⟩ := Except.do_eq_ok.mp h
    cases h
    exact (more read).trans (List.suffix_cons c r)

/-! ## Words and numbers -/

theorem readWord_suffix {word rest : List Char} (h : readWord word s = .ok rest) : rest <:+ s := by
  induction word generalizing s with
  | nil =>
    rw [readWord] at h
    cases h
    exact List.suffix_refl _
  | cons c more ih =>
    cases s with
    | nil => cases h
    | cons d s =>
      rw [readWord] at h
      split at h
      · exact (ih h).trans (List.suffix_cons d s)
      · cases h

theorem readConstant_suffix {word : List Char} {v w : Value}
    {rest : { r : List Char // r.length ≤ s.length }}
    (h : readConstant word v s = .ok (w, rest)) : w = v ∧ rest.1 <:+ s := by
  unfold readConstant at h
  split at h
  · rename_i read
    cases h
    exact ⟨rfl, readWord_suffix read⟩
  · cases h

theorem splitSign_suffix (s : List Char) : (splitSign s).2 <:+ s := by
  unfold splitSign
  split
  · exact List.suffix_cons _ _
  · exact List.suffix_refl _

theorem splitDigits_suffix (s : List Char) : (splitDigits s).2 <:+ s :=
  List.dropWhile_suffix isDigit

theorem readWhole_suffix {digits : List Nat} {rest : List Char}
    (h : readWhole s = .ok (digits, rest)) : rest <:+ s := by
  unfold readWhole at h
  split at h
  · cases h
  · split at h
    · cases h
      exact List.suffix_cons _ _
    · cases h
  · rename_i c r _
    split at h
    · have left := splitDigits_suffix (c :: r)
      rw [Except.ok.inj h] at left
      exact left
    · cases h

theorem readFraction_suffix {digits : Option (List Nat)} {rest : List Char}
    (h : readFraction s = .ok (digits, rest)) : rest <:+ s := by
  unfold readFraction at h
  split at h
  · rename_i r
    have left := splitDigits_suffix r
    split at h
    · cases h
    · cases h
    · rename_i parts
      cases h
      rw [parts] at left
      exact left.trans (List.suffix_cons '.' r)
  · cases h
    exact List.suffix_refl _

theorem splitExponentSign_suffix (s : List Char) : (splitExponentSign s).2 <:+ s := by
  unfold splitExponentSign
  split
  · exact List.suffix_cons _ _
  · exact List.suffix_cons _ _
  · exact List.suffix_refl _

theorem readExponent_suffix {e : Option Exponent} {rest : List Char}
    (h : readExponent s = .ok (e, rest)) : rest <:+ s := by
  unfold readExponent at h
  split at h
  · cases h
    exact List.suffix_refl _
  · rename_i e' r
    have sign := splitExponentSign_suffix r
    split at h
    · split at h
      · cases h
      · rename_i down c t parts
        rw [parts] at sign
        split at h
        · cases h
          exact (((List.dropWhile_suffix isDigit).trans (List.suffix_cons c t)).trans sign).trans
            (List.suffix_cons e' r)
        · cases h
    · cases h
      exact List.suffix_refl _

theorem readNumber_suffix {n : Number} {rest : List Char} (h : readNumber s = .ok (n, rest)) :
    rest <:+ s := by
  unfold readNumber at h
  dsimp only at h
  obtain ⟨⟨whole, afterWhole⟩, read, h⟩ := Except.do_eq_ok.mp h
  obtain ⟨⟨fraction, afterFraction⟩, read', h⟩ := Except.do_eq_ok.mp h
  obtain ⟨⟨exponent, afterExponent⟩, read'', h⟩ := Except.do_eq_ok.mp h
  obtain ⟨n', -, h⟩ := Except.do_eq_ok.mp h
  cases h
  exact (((readExponent_suffix read'').trans (readFraction_suffix read')).trans
    (readWhole_suffix read)).trans (splitSign_suffix s)

theorem readNumberValue_suffix {v : Value} {rest : Rest s}
    (h : readNumberValue s = .ok (v, rest)) : (∃ n, v = .number n) ∧ rest.1 <:+ s := by
  unfold readNumberValue at h
  split at h
  · rename_i n r read
    cases h
    exact ⟨⟨n, rfl⟩, readNumber_suffix read⟩
  · cases h

/-! ## Values -/

theorem build_eq_ok {r : List Char} {f : α → β} {h : r.length ≤ s.length} {x : Reading α r} {b : β}
    {rest : Rest s} (built : build f h x = .ok (b, rest)) :
    ∃ a left, x = .ok (a, left) ∧ b = f a ∧ rest.1 = left.1 := by
  obtain ⟨⟨a, left⟩, read, same⟩ := Except.map_eq_ok.mp built
  obtain ⟨rfl, rfl⟩ := Prod.mk.inj same
  exact ⟨a, left, read, rfl, rfl⟩

theorem readKey_suffix {key : String} {rest : Rest s} (h : readKey s = .ok (key, rest)) :
    rest.1 <:+ s := by
  unfold readKey at h
  obtain ⟨⟨cs, left⟩, read, h⟩ := Except.do_eq_ok.mp h
  dsimp only at h
  split at h
  · cases h
  · rename_i r colon
    cases h
    exact (suffix_of_skipSpace colon).trans (readString_suffix read)
  · cases h

/-- The text goes on with `rest` after a value, which ends with a brace if it is an object. -/
def Continues (s : List Char) : Value → List Char → Prop
  | .object _, rest => '\x7d' :: rest <:+ s
  | _, rest => rest <:+ s

theorem Continues.suffix {v : Value} {rest : List Char} (h : Continues s v rest) : rest <:+ s := by
  cases v with
  | object fields => exact (List.suffix_cons _ rest).trans h
  | _ => exact h

/-- A word continues what comes before it, if it does not stand for an object. -/
theorem readConstant_continues {word r : List Char} {v w : Value} {rest : Rest s}
    {f : ∀ x : Value × { t : List Char // t.length ≤ r.length }, x.2.1.length < s.length}
    (h : (readConstant word w r).map (fun x => (x.1, ⟨x.2.1, f x⟩)) = .ok (v, rest))
    (after : r <:+ s) (other : ∀ fields, w ≠ .object fields) : Continues s v rest.1 := by
  obtain ⟨⟨w', left⟩, read, same⟩ := Except.map_eq_ok.mp h
  obtain ⟨rfl, rfl⟩ := Prod.mk.inj same
  obtain ⟨rfl, left_suffix⟩ := readConstant_suffix read
  cases w' with
  | object fields => exact absurd rfl (other fields)
  | _ => exact left_suffix.trans after

mutual

/-- What the reading of a value leaves. -/
theorem readValue_suffix {room : Nat} {s : List Char} {v : Value} {rest : Rest s}
    (h : readValue room s = .ok (v, rest)) : Continues s v rest.1 := by
  rw [readValue] at h
  split at h
  · cases h
  · rename_i c r hs
    have after := suffix_of_skipSpace hs
    have shorter := length_of_skipSpace hs
    dsimp only at h
    split at h
    · exact readConstant_continues h after nofun
    split at h
    · exact readConstant_continues h after nofun
    split at h
    · exact readConstant_continues h after nofun
    split at h
    · obtain ⟨w, left, read, rfl, same⟩ := build_eq_ok h
      obtain ⟨⟨n, rfl⟩, left_suffix⟩ := readNumberValue_suffix read
      rw [same]
      exact left_suffix.trans (hs ▸ skipSpace_suffix s)
    split at h
    · obtain ⟨cs, left, read, rfl, same⟩ := build_eq_ok h
      rw [same]
      exact (readString_suffix read).trans after
    split at h
    · split at h
      · cases h
      · split at h
        · cases h
        · rename_i t hr
          cases h
          exact (suffix_of_skipSpace hr).trans after
        · obtain ⟨items, left, read, rfl, same⟩ := build_eq_ok h
          rw [same]
          exact (readItems_suffix read).trans after
    split at h
    · split at h
      · cases h
      · split at h
        · cases h
        · rename_i t hr
          cases h
          exact (hr ▸ skipSpace_suffix r : _ :: t <:+ r).trans after
        · rename_i t hr
          obtain ⟨fields, left, read, rfl, same⟩ := build_eq_ok h
          have shorter := Nat.lt_trans (length_of_skipSpace hr) shorter
          rw [same]
          exact (readMembers_suffix read).trans ((suffix_of_skipSpace hr).trans after)
        · cases h
    · cases h
termination_by (s.length, 0)

theorem readItems_suffix {room : Nat} {s : List Char} {items : List Value} {rest : Rest s}
    (h : readItems room s = .ok (items, rest)) : rest.1 <:+ s := by
  rw [readItems] at h
  obtain ⟨⟨v, left⟩, read, h⟩ := Except.do_eq_ok.mp h
  have first := (readValue_suffix read).suffix
  dsimp only at h
  split at h
  · cases h
  · rename_i c r hs
    have after := (suffix_of_skipSpace hs).trans first
    have shorter := Nat.lt_trans (length_of_skipSpace hs) left.2
    split at h
    · cases h
      exact after
    split at h
    · split at h
      · cases h
      · cases h
      · obtain ⟨more, left', read', rfl, same⟩ := build_eq_ok h
        rw [same]
        exact (readItems_suffix read').trans after
    · cases h
termination_by (s.length, 1)

theorem readMembers_suffix {room : Nat} {s : List Char} {fields : Fields} {rest : Rest s}
    (h : readMembers room s = .ok (fields, rest)) : '\x7d' :: rest.1 <:+ s := by
  rw [readMembers] at h
  obtain ⟨⟨key, left⟩, named, h⟩ := Except.do_eq_ok.mp h
  obtain ⟨⟨v, left'⟩, read, h⟩ := Except.do_eq_ok.mp h
  have first := (readValue_suffix read).suffix.trans (readKey_suffix named)
  dsimp only at h
  split at h
  · cases h
  · rename_i c r hs
    have token : c :: r <:+ s := (hs ▸ skipSpace_suffix left'.1).trans first
    have shorter := Nat.lt_trans (length_of_skipSpace hs) (Nat.lt_trans left'.2 left.2)
    split at h
    · rename_i brace
      cases h
      exact brace ▸ token
    split at h
    · split at h
      · cases h
      · cases h
      · rename_i t hr
        obtain ⟨more, left'', read', rfl, same⟩ := build_eq_ok h
        have shorter := Nat.lt_trans (length_of_skipSpace hr) shorter
        rw [same]
        have inside := (suffix_of_skipSpace hr).trans ((List.suffix_cons c r).trans token)
        exact (readMembers_suffix read').trans inside
      · cases h
    · cases h
termination_by (s.length, 0)

end

/-- The text of an object ends with a brace, but for spaces. -/
theorem readText_object {fields : Fields} (h : readText s = .ok (.object fields)) :
    ∃ body spaces, s = body ++ '\x7d' :: spaces ∧ ∀ c ∈ spaces, isSpace c = true := by
  unfold readText at h
  obtain ⟨⟨v, rest⟩, read, h⟩ := Except.do_eq_ok.mp h
  dsimp only at h
  split at h
  · rename_i none_left
    cases h
    obtain ⟨body, whole⟩ := readValue_suffix read
    exact ⟨body, rest.1, whole.symm, List.dropWhile_eq_nil_iff.mp none_left⟩
  · cases h

end Dialogue.Json
