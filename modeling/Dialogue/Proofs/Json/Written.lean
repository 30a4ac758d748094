import Dialogue.Json.Reader
import Dialogue.Json.Writer
import Dialogue.Proofs.Except
import Dialogue.Proofs.Json.Members
import Dialogue.Proofs.Text.Digit

/-! # Reading back what was written

What the writer wrote is read as the value that it wrote, whatever comes after it. -/

namespace Dialogue.Json

open Text (isDigit digitValue isDigit_of_mem_decimal)

variable {α : Type} {s t u rest : List Char} {c : Char} {room : Nat}

/-- A reading gives `a` and leaves `rest`. -/
def Gives (x : Reading α s) (a : α) (rest : List Char) : Prop := ∃ h, x = .ok (a, ⟨rest, h⟩)

/-! ## Strings -/

theorem hexValue?_hexDigit : ∀ n < 16, hexValue? (hexDigit n) = some n := by decide

/-- The escape of a control character. -/
theorem readCodePoint_control {c : Char} (control : c.toNat < 0x20) (rest : List Char) :
    Gives (readCodePoint ('0' :: '0' :: hexDigit (c.toNat / 16) :: hexDigit (c.toNat % 16) :: rest))
      c rest := by
  have zero : hexValue? '0' = some 0 := rfl
  have high := hexValue?_hexDigit (c.toNat / 16) (by omega)
  have low := hexValue?_hexDigit (c.toNat % 16) (by omega)
  have number : c.toNat / 16 * 16 + c.toNat % 16 = c.toNat := Nat.div_add_mod' c.toNat 16
  have notLow : isLowSurrogate c.toNat = false := by simp [isLowSurrogate]; omega
  have notHigh : isHighSurrogate c.toNat = false := by simp [isHighSurrogate]; omega
  refine ⟨by simp only [List.length_cons]; omega, ?_⟩
  simp [readCodePoint, readHex, zero, high, low, number, notLow, notHigh, bind, Except.bind]

theorem readString_plain {cs : List Char} (quote : c ≠ '"') (backslash : c ≠ '\\')
    (plain : ¬ c.toNat < 0x20) (more : Gives (readString s) cs rest) :
    Gives (readString (c :: s)) (c :: cs) rest := by
  obtain ⟨shorter, more⟩ := more
  refine ⟨Nat.lt_succ_of_lt shorter, ?_⟩
  rw [readString.eq_4 c s quote backslash, if_neg plain, more]
  rfl

theorem readString_escape {cs : List Char} (escape : Gives (readEscape s) c t)
    (more : Gives (readString t) cs rest) : Gives (readString ('\\' :: s)) (c :: cs) rest := by
  obtain ⟨shorter, escape⟩ := escape
  obtain ⟨shorter', more⟩ := more
  refine ⟨by simp only [List.length_cons]; omega, ?_⟩
  rw [readString, escape]
  simp only [bind, Except.bind, more]

theorem readEscape_control {c : Char} (control : c.toNat < 0x20) (rest : List Char) :
    Gives (readEscape
      ('u' :: '0' :: '0' :: hexDigit (c.toNat / 16) :: hexDigit (c.toNat % 16) :: rest))
      c rest := by
  obtain ⟨shorter, read⟩ := readCodePoint_control control rest
  refine ⟨Nat.lt_succ_of_lt shorter, ?_⟩
  rw [readEscape, read]
  rfl

/-- A character is written either as it is or as an escape that stands for it. -/
theorem escapedChar_cases (c : Char) :
    (escapedChar c = [c] ∧ c ≠ '"' ∧ c ≠ '\\' ∧ ¬ c.toNat < 0x20) ∨
      ∃ escape, escapedChar c = '\\' :: escape ∧ ∀ rest, Gives (readEscape (escape ++ rest)) c rest := by
  have short : ∀ e d, (∀ rest, readEscape (e :: rest) = .ok (d, ⟨rest, Nat.lt_succ_self _⟩)) →
      ∃ escape, ['\\', e] = '\\' :: escape ∧ ∀ rest, Gives (readEscape (escape ++ rest)) d rest :=
    fun e d read => ⟨[e], rfl, fun rest => ⟨Nat.lt_succ_self _, read rest⟩⟩
  unfold escapedChar
  split
  · rename_i same
    exact .inr (same ▸ short '"' '"' fun _ => rfl)
  split
  · rename_i same
    exact .inr (same ▸ short '\\' '\\' fun _ => rfl)
  split
  · rename_i same
    exact .inr (same ▸ short 'b' '\x08' fun _ => rfl)
  split
  · rename_i same
    exact .inr (same ▸ short 'f' '\x0c' fun _ => rfl)
  split
  · rename_i same
    exact .inr (same ▸ short 'n' '\n' fun _ => rfl)
  split
  · rename_i same
    exact .inr (same ▸ short 'r' '\r' fun _ => rfl)
  split
  · rename_i same
    exact .inr (same ▸ short 't' '\t' fun _ => rfl)
  split
  · rename_i control
    exact .inr ⟨_, rfl, readEscape_control control⟩
  · rename_i quote backslash _ _ _ _ _ plain
    exact .inl ⟨rfl, quote, backslash, plain⟩

/-- A string is read back up to its closing quote. -/
theorem readString_written (cs rest : List Char) :
    Gives (readString (cs.flatMap escapedChar ++ '"' :: rest)) cs rest := by
  induction cs with
  | nil =>
    refine ⟨Nat.lt_succ_self _, ?_⟩
    show readString ('"' :: rest) = _
    rw [readString]
  | cons c cs ih =>
    rw [List.flatMap_cons, List.append_assoc]
    rcases escapedChar_cases c with ⟨plain, quote, backslash, printable⟩ | ⟨escape, written, read⟩
    · rw [plain]
      exact readString_plain quote backslash printable ih
    · rw [written]
      exact readString_escape (read _) ih

/-! ## Numbers -/

/-- The text does not go on with what could belong to a number. -/
def Apart (s : List Char) : Prop :=
  ∀ c ∈ s.head?, isDigit c = false ∧ c ≠ '.' ∧ c ≠ 'e' ∧ c ≠ 'E'

/-- A number other than zero does not begin with a zero. -/
theorem decimal_pos {n : Nat} (pos : 0 < n) : ∃ c more, Text.decimal n = c :: more ∧ c ≠ '0' := by
  induction n using Nat.strongRecOn with
  | ind n ih =>
    rw [Text.decimal, Nat.toDigits_eq_if (by decide)]
    split
    · rename_i small
      have first : ∀ n < 10, 0 < n → Nat.digitChar n ≠ '0' := by decide
      exact ⟨_, [], rfl, first n small pos⟩
    · rename_i large
      obtain ⟨c, more, digits, first⟩ := ih (n / 10) (by omega) (by omega)
      rw [Text.decimal] at digits
      exact ⟨c, more ++ [Nat.digitChar (n % 10)], by rw [digits, List.cons_append], first⟩

theorem splitDigits_row {digits : List Char} (all : ∀ c ∈ digits, isDigit c = true)
    (apart : Apart rest) : splitDigits (digits ++ rest) = (digits.map digitValue, rest) := by
  have stops : rest.takeWhile isDigit = [] ∧ rest.dropWhile isDigit = rest := by
    cases rest with
    | nil => exact ⟨rfl, rfl⟩
    | cons c more =>
      have other := (apart c rfl).1
      simp [other]
  rw [splitDigits, List.takeWhile_append_of_pos all, List.dropWhile_append_of_pos all, stops.1,
    stops.2, List.append_nil]

theorem readWhole_decimal (n : Nat) (apart : Apart rest) :
    readWhole (Text.decimal n ++ rest) = .ok ((Text.decimal n).map digitValue, rest) := by
  have row := splitDigits_row (fun c => isDigit_of_mem_decimal (c := c) (n := n)) apart
  rcases Nat.eq_zero_or_pos n with rfl | pos
  · have none : (splitDigits rest).1 = [] := by
      rw [← List.nil_append rest, splitDigits_row (List.forall_mem_nil _) apart, List.map_nil]
    show readWhole ('0' :: rest) = _
    rw [readWhole, none]
    rfl
  · obtain ⟨c, more, digits, first⟩ := decimal_pos pos
    have digit : isDigit c = true := isDigit_of_mem_decimal (n := n) (by simp [digits])
    rw [digits, List.cons_append] at row ⊢
    unfold readWhole
    split
    · rename_i h
      cases h
    · rename_i h
      cases h
      exact absurd rfl first
    · rename_i h
      cases h
      rw [if_pos digit, row]

theorem readFraction_apart (apart : Apart s) : readFraction s = .ok (none, s) := by
  unfold readFraction
  split
  · exact absurd rfl (apart '.' rfl).2.1
  · rfl

theorem readExponent_apart (apart : Apart s) : readExponent s = .ok (none, s) := by
  unfold readExponent
  split
  · rfl
  · rename_i c r
    obtain ⟨-, -, small, capital⟩ := apart c rfl
    simp [small, capital]

/-- A significand takes all the digits of a number that it can hold. -/
theorem takeDigits_all (digits : List Nat) :
    ∀ n, digits.foldl (fun n d => n * 10 + d) n ≤ maxSignificand →
      takeDigits n digits = (digits.foldl (fun n d => n * 10 + d) n, digits.length) := by
  induction digits with
  | nil => exact fun n _ => rfl
  | cons d rest ih =>
    intro n fits
    rw [List.foldl_cons] at fits ⊢
    have first : n * 10 + d ≤ maxSignificand := Nat.le_trans (Text.le_foldl_digits rest _) fits
    rw [takeDigits, if_pos first, ih _ fits]
    rfl

theorem takeDigits_decimal {n : Nat} (fits : n ≤ maxSignificand) :
    takeDigits 0 ((Text.decimal n).map digitValue) = (n, (Text.decimal n).length) := by
  have value : ((Text.decimal n).map digitValue).foldl (fun n d => n * 10 + d) 0 = n := by
    rw [List.foldl_map]
    exact Text.valueOf_decimal n
  rw [takeDigits_all _ _ (value.symm ▸ fits), value, List.length_map]

/-- A number that is whole and fits 64 bits. -/
def Fits (n : Int) : Prop := -0x8000000000000000 ≤ n ∧ n ≤ 0xFFFFFFFFFFFFFFFF

theorem write_ofNat (n : Nat) : (Number.integer n).write = Text.decimal n := Text.toList_repr n

theorem write_negSucc (n : Nat) :
    (Number.integer (Int.negSucc n)).write = '-' :: Text.decimal (n + 1) := by
  show ("-" ++ Nat.repr (n + 1)).toList = _
  rw [String.toList_append, Text.toList_repr]
  rfl

theorem splitSign_decimal (n : Nat) (rest : List Char) :
    splitSign (Text.decimal n ++ rest) = (false, Text.decimal n ++ rest) := by
  unfold splitSign
  split
  · rename_i r starts
    have nonempty : Text.decimal n ≠ [] := Nat.toDigits_ne_nil
    have first : '-' ∈ Text.decimal n := by
      cases digits : Text.decimal n with
      | nil => exact absurd digits nonempty
      | cons c more =>
        rw [digits, List.cons_append] at starts
        cases starts
        exact List.mem_cons_self ..
    exact absurd (isDigit_of_mem_decimal first) (by decide)
  · rfl

/-- A whole number is read back. -/
theorem readNumber_write {n : Int} (fits : Fits n) (apart : Apart rest) :
    readNumber ((Number.integer n).write ++ rest) = .ok (.integer n, rest) := by
  cases n with
  | ofNat n =>
    have size : n ≤ maxSignificand := by
      have := fits.2
      simp only [maxSignificand, Int.ofNat_eq_natCast] at *
      omega
    show readNumber ((Number.integer (n : Int)).write ++ rest) = _
    rw [write_ofNat, readNumber, splitSign_decimal]
    simp [readWhole_decimal n apart, readFraction_apart apart, readExponent_apart apart, numberOf,
      takeDigits_decimal size, bind, Except.bind, pure, Except.pure]
  | negSucc n =>
    have size : n + 1 ≤ 0x8000000000000000 := by
      have := fits.1
      omega
    have size' : n + 1 ≤ maxSignificand := Nat.le_trans size (by decide)
    have sign : splitSign ('-' :: (Text.decimal (n + 1) ++ rest)) =
      (true, Text.decimal (n + 1) ++ rest) := rfl
    rw [write_negSucc, List.cons_append, readNumber, sign]
    simp [readWhole_decimal (n + 1) apart, readFraction_apart apart, readExponent_apart apart,
      numberOf, takeDigits_decimal size', size, bind, Except.bind, pure, Except.pure]
    omega

/-! ## Values -/

theorem skipSpace_token (token : isSpace c = false) (s : List Char) :
    skipSpace (c :: s) = c :: s := by
  simp [skipSpace, token]

/-- A word is read as what it stands for. -/
theorem readConstant_word (word rest : List Char) (v : Value) :
    readConstant word v (word ++ rest) =
      .ok (v, ⟨rest, (List.suffix_append word rest).length_le⟩) := by
  have read : readWord word (word ++ rest) = .ok rest := by
    induction word with
    | nil => rw [List.nil_append, readWord]
    | cons c more ih => rw [List.cons_append, readWord, if_pos rfl, ih]
  unfold readConstant
  split
  · rename_i r h
    cases read.symm.trans h
    rfl
  · rename_i e h
    cases read.symm.trans h

/-- The words that stand for a value, by their first letters. -/
inductive Constant : Char → List Char → Value → Prop
  | null : Constant 'n' ['u', 'l', 'l'] .null
  | true : Constant 't' ['r', 'u', 'e'] (.bool true)
  | false : Constant 'f' ['a', 'l', 's', 'e'] (.bool false)

theorem readValue_constant {word : List Char} {v : Value} (known : Constant c word v)
    (next : skipSpace s = c :: (word ++ rest)) : Gives (readValue room s) v rest := by
  have shorter := length_of_skipSpace next
  rw [List.length_append] at shorter
  refine ⟨by omega, ?_⟩
  rw [readValue]
  split
  · rename_i hs
    cases next.symm.trans hs
  · rename_i c' r hs
    obtain ⟨rfl, rfl⟩ := List.cons.inj (next.symm.trans hs)
    cases known with
    | null => simp only [if_true, readConstant_word, Except.map]
    | true => simp only [Char.reduceEq, if_true, if_false, readConstant_word, Except.map]
    | false => simp only [Char.reduceEq, if_true, if_false, readConstant_word, Except.map]

theorem readValue_number {n : Number} (first : c = '-' ∨ isDigit c = true)
    (next : skipSpace s = c :: t) (read : readNumber (c :: t) = .ok (n, rest)) :
    Gives (readValue room s) (.number n) rest := by
  have shorter := length_readNumber read
  have shorter' := length_skipSpace s
  rw [next] at shorter'
  refine ⟨by omega, ?_⟩
  have number : readNumberValue (c :: t) = .ok (.number n, ⟨rest, shorter⟩) := by
    unfold readNumberValue
    split
    · rename_i h
      cases read.symm.trans h
      rfl
    · rename_i h
      cases read.symm.trans h
  have others : c ≠ 'n' ∧ c ≠ 't' ∧ c ≠ 'f' := by
    refine ⟨?_, ?_, ?_⟩ <;> (rintro rfl; revert first; decide)
  rw [readValue]
  split
  · rename_i hs
    cases next.symm.trans hs
  · rename_i c' r hs
    obtain ⟨rfl, rfl⟩ := List.cons.inj (next.symm.trans hs)
    simp [Json.build, number, others, first, Except.map]

theorem readValue_string {cs : List Char} (next : skipSpace s = '"' :: t)
    (read : Gives (readString t) cs rest) :
    Gives (readValue room s) (.string (String.ofList cs)) rest := by
  obtain ⟨shorter, read⟩ := read
  have shorter' := length_of_skipSpace next
  refine ⟨by omega, ?_⟩
  rw [readValue]
  split
  · rename_i hs
    cases next.symm.trans hs
  · rename_i c r hs
    obtain ⟨rfl, rfl⟩ := List.cons.inj (next.symm.trans hs)
    simp [Json.build, read, isDigit, Except.map]

theorem readValue_array {items : List Value} (next : skipSpace s = '[' :: t)
    (read : (items = [] ∧ skipSpace t = ']' :: rest) ∨
      (∃ c u, skipSpace t = c :: u ∧ c ≠ ']') ∧ Gives (readItems room t) items rest) :
    Gives (readValue (room + 1) s) (.array items) rest := by
  have shorter := length_of_skipSpace next
  have digit : isDigit '[' = false := rfl
  have shorter' : rest.length < t.length := by
    rcases read with ⟨-, closed⟩ | ⟨-, shorter', -⟩
    · exact length_of_skipSpace closed
    · exact shorter'
  refine ⟨by omega, ?_⟩
  rw [readValue]
  split
  · rename_i hs
    cases next.symm.trans hs
  · rename_i c r hs
    obtain ⟨rfl, rfl⟩ := List.cons.inj (next.symm.trans hs)
    simp only [Char.reduceEq, digit, decide_false, Bool.or_self, Bool.false_eq_true, if_false,
      if_true]
    rcases read with ⟨rfl, closed⟩ | ⟨⟨c, u, more, notClosed⟩, shorter', read⟩
    · split
      · rename_i hr
        cases closed.symm.trans hr
      · rename_i u hr
        cases closed.symm.trans hr
        rfl
      · rename_i notClosed
        exact absurd closed (notClosed rest)
    · split
      · rename_i hr
        cases more.symm.trans hr
      · rename_i u hr
        cases more.symm.trans hr
        exact absurd rfl notClosed
      · rw [Json.build, read, Except.map]

theorem readValue_object {fields : Fields} (next : skipSpace s = '\x7b' :: t)
    (read : (fields = [] ∧ skipSpace t = '\x7d' :: rest) ∨
      ∃ u, skipSpace t = '"' :: u ∧ Gives (readMembers room u) fields rest) :
    Gives (readValue (room + 1) s) (.ofFields fields) rest := by
  have shorter := length_of_skipSpace next
  have digit : isDigit '\x7b' = false := rfl
  have shorter' : rest.length < t.length := by
    rcases read with ⟨-, closed⟩ | ⟨u, quote, shorter', -⟩
    · exact length_of_skipSpace closed
    · exact Nat.lt_trans shorter' (length_of_skipSpace quote)
  refine ⟨by omega, ?_⟩
  rw [readValue]
  split
  · rename_i hs
    cases next.symm.trans hs
  · rename_i c r hs
    obtain ⟨rfl, rfl⟩ := List.cons.inj (next.symm.trans hs)
    simp only [Char.reduceEq, digit, decide_false, Bool.or_self, Bool.false_eq_true, if_false,
      if_true]
    rcases read with ⟨rfl, closed⟩ | ⟨u, quote, shorter', read⟩
    · split
      · rename_i hr
        cases closed.symm.trans hr
      · rename_i u hr
        cases closed.symm.trans hr
        rfl
      · rename_i hr
        cases closed.symm.trans hr
      · rename_i notClosed _
        exact absurd closed (notClosed rest)
    · split
      · rename_i hr
        cases quote.symm.trans hr
      · rename_i hr
        cases quote.symm.trans hr
      · rename_i u hr
        cases quote.symm.trans hr
        rw [Json.build, read, Except.map]
      · rename_i notQuote
        exact absurd quote (notQuote u)

theorem readItems_last {v : Value} (read : Gives (readValue room s) v t)
    (closed : skipSpace t = ']' :: rest) : Gives (readItems room s) [v] rest := by
  obtain ⟨shorter, read⟩ := read
  have shorter' := length_of_skipSpace closed
  refine ⟨by omega, ?_⟩
  rw [readItems, read]
  simp only [bind, Except.bind]
  split
  · rename_i hs
    cases closed.symm.trans hs
  · rename_i c r hs
    obtain ⟨rfl, rfl⟩ := List.cons.inj (closed.symm.trans hs)
    rw [if_pos rfl]

theorem readItems_cons {v : Value} {items : List Value} (read : Gives (readValue room s) v t)
    (comma : skipSpace t = ',' :: u) (next : ∃ c r, skipSpace u = c :: r ∧ c ≠ ']')
    (more : Gives (readItems room u) items rest) : Gives (readItems room s) (v :: items) rest := by
  obtain ⟨shorter, read⟩ := read
  obtain ⟨shorter'', more⟩ := more
  have shorter' := length_of_skipSpace comma
  refine ⟨by omega, ?_⟩
  rw [readItems, read]
  simp only [bind, Except.bind]
  split
  · rename_i hs
    cases comma.symm.trans hs
  · rename_i c r hs
    obtain ⟨rfl, rfl⟩ := List.cons.inj (comma.symm.trans hs)
    rw [if_neg (by decide), if_pos rfl]
    obtain ⟨c, r, next, notClosed⟩ := next
    split
    · rename_i hr
      cases next.symm.trans hr
    · rename_i hr
      cases next.symm.trans hr
      exact absurd rfl notClosed
    · rw [Json.build, more, Except.map]

theorem readKey_colon {cs : List Char} (read : Gives (readString s) cs t)
    (colon : skipSpace t = ':' :: rest) : Gives (readKey s) (String.ofList cs) rest := by
  obtain ⟨shorter, read⟩ := read
  have shorter' := length_of_skipSpace colon
  refine ⟨by omega, ?_⟩
  rw [readKey, read]
  simp only [bind, Except.bind]
  split
  · rename_i hs
    cases colon.symm.trans hs
  · rename_i r hs
    cases colon.symm.trans hs
    rfl
  · rename_i notColon
    exact absurd colon (notColon rest)

theorem readMembers_last {key : String} {v : Value} (named : Gives (readKey s) key t)
    (read : Gives (readValue room t) v u) (closed : skipSpace u = '\x7d' :: rest) :
    Gives (readMembers room s) [(key, v)] rest := by
  obtain ⟨shorter, named⟩ := named
  obtain ⟨shorter', read⟩ := read
  have shorter'' := length_of_skipSpace closed
  refine ⟨by omega, ?_⟩
  rw [readMembers, named]
  simp only [bind, Except.bind, read]
  split
  · rename_i hs
    cases closed.symm.trans hs
  · rename_i c r hs
    obtain ⟨rfl, rfl⟩ := List.cons.inj (closed.symm.trans hs)
    rw [if_pos rfl]

theorem readMembers_cons {key : String} {v : Value} {fields : Fields} {w x : List Char}
    (named : Gives (readKey s) key t)
    (read : Gives (readValue room t) v u) (comma : skipSpace u = ',' :: w)
    (quote : skipSpace w = '"' :: x) (more : Gives (readMembers room x) fields rest) :
    Gives (readMembers room s) ((key, v) :: fields) rest := by
  obtain ⟨shorter, named⟩ := named
  obtain ⟨shorter', read⟩ := read
  obtain ⟨last, more⟩ := more
  have afterComma := length_of_skipSpace comma
  have afterQuote := length_of_skipSpace quote
  refine ⟨by omega, ?_⟩
  rw [readMembers, named]
  simp only [bind, Except.bind, read]
  split
  · rename_i hs
    cases comma.symm.trans hs
  · rename_i c r hs
    obtain ⟨rfl, rfl⟩ := List.cons.inj (comma.symm.trans hs)
    rw [if_neg (by decide), if_pos rfl]
    split
    · rename_i hr
      cases quote.symm.trans hr
    · rename_i hr
      cases quote.symm.trans hr
    · rename_i hr
      cases quote.symm.trans hr
      rw [Json.build, more, Except.map]
    · rename_i notQuote
      exact absurd quote (notQuote _)

/-! ## What can be read back -/

/-- A value that is read back when `room` more levels of arrays and objects may be nested in it: its
numbers are whole, and the members of its objects in order. -/
inductive Legible : Nat → Value → Prop
  | null {room : Nat} : Legible room .null
  | bool {room : Nat} (b : Bool) : Legible room (.bool b)
  | number {room : Nat} {n : Int} (fits : Fits n) : Legible room (.number (.integer n))
  | string {room : Nat} (s : String) : Legible room (.string s)
  | array {room : Nat} {items : List Value} (legible : ∀ v ∈ items, Legible room v) :
    Legible (room + 1) (.array items)
  | object {room : Nat} {fields : Fields} (sorted : Sorted fields)
    (legible : ∀ member ∈ fields, Legible room member.2) : Legible (room + 1) (.object fields)

/-- A value is read back from its text, whatever comes after that. -/
def ReadsBack (room : Nat) (v : Value) : Prop :=
  ∀ rest, Apart rest → Gives (readValue room (v.write ++ rest)) v rest

theorem apart_cons (other : isDigit c = false ∧ c ≠ '.' ∧ c ≠ 'e' ∧ c ≠ 'E') (s : List Char) :
    Apart (c :: s) := by
  intro c' first
  obtain rfl := Option.some.inj first
  exact other

theorem write_integer_head (n : Int) :
    ∃ c more, (Number.integer n).write = c :: more ∧ (c = '-' ∨ isDigit c = true) := by
  cases n with
  | ofNat n =>
    cases digits : Text.decimal n with
    | nil => exact absurd digits Nat.toDigits_ne_nil
    | cons c more =>
      have digit : isDigit c = true := isDigit_of_mem_decimal (n := n) (by simp [digits])
      exact ⟨c, more, (write_ofNat n).trans digits, .inr digit⟩
  | negSucc n => exact ⟨_, _, write_negSucc n, .inl rfl⟩

/-- A number begins with a token that ends no array. -/
theorem token_of_numeral (first : c = '-' ∨ isDigit c = true) : isSpace c = false ∧ c ≠ ']' := by
  constructor
  · cases space : isSpace c with
    | false => rfl
    | true =>
      simp only [isSpace, Bool.or_eq_true, decide_eq_true_eq] at space
      rcases space with ((rfl | rfl) | rfl) | rfl <;> exact absurd first (by decide)
  · rintro rfl
    exact absurd first (by decide)

/-- The text of a value begins with a token that ends no array. -/
theorem Legible.write_head {v : Value} (legible : Legible room v) :
    ∃ c more, v.write = c :: more ∧ isSpace c = false ∧ c ≠ ']' := by
  cases legible with
  | null => exact ⟨'n', _, rfl, rfl, by decide⟩
  | bool b =>
    cases b with
    | false => exact ⟨'f', _, rfl, rfl, by decide⟩
    | true => exact ⟨'t', _, rfl, rfl, by decide⟩
  | @number _ n fits =>
    obtain ⟨c, more, head, first⟩ := write_integer_head n
    exact ⟨c, more, head, token_of_numeral first⟩
  | string s => exact ⟨'"', _, rfl, rfl, by decide⟩
  | @array _ items legible =>
    cases items with
    | nil => exact ⟨'[', _, rfl, rfl, by decide⟩
    | cons v more => exact ⟨'[', _, rfl, rfl, by decide⟩
  | @object _ fields sorted legible =>
    cases fields with
    | nil => exact ⟨'\x7b', _, rfl, rfl, by decide⟩
    | cons member more => exact ⟨'\x7b', _, rfl, rfl, by decide⟩

theorem Legible.skipSpace_write {v : Value} (legible : Legible room v) (rest : List Char) :
    ∃ c u, skipSpace (v.write ++ rest) = c :: u ∧ c ≠ ']' := by
  obtain ⟨c, more, head, token, notClosed⟩ := legible.write_head
  exact ⟨c, more ++ rest, by rw [head, List.cons_append, skipSpace_token token], notClosed⟩

theorem readItems_written {v : Value} {more : List Value}
    (legible : ∀ w ∈ v :: more, Legible room w) (reads : ∀ w ∈ v :: more, ReadsBack room w)
    (rest : List Char) :
    Gives (readItems room (v.write ++ (Value.writeItems more ++ rest))) (v :: more) rest := by
  induction more generalizing v with
  | nil =>
    have read := reads v (List.mem_cons_self ..) (']' :: rest) (apart_cons (by decide) rest)
    rw [Value.writeItems]
    exact readItems_last read (skipSpace_token rfl rest)
  | cons w more ih =>
    have read := reads v (List.mem_cons_self ..)
    have legible' : ∀ w' ∈ w :: more, Legible room w' :=
      fun w' member => legible w' (List.mem_cons_of_mem _ member)
    have reads' : ∀ w' ∈ w :: more, ReadsBack room w' :=
      fun w' member => reads w' (List.mem_cons_of_mem _ member)
    rw [Value.writeItems, List.cons_append, List.append_assoc]
    exact readItems_cons (read _ (apart_cons (by decide) _)) (skipSpace_token rfl _)
      ((legible' w (List.mem_cons_self ..)).skipSpace_write _) (ih legible' reads')

theorem readKey_written (key : String) (rest : List Char) :
    Gives (readKey (key.toList.flatMap escapedChar ++ '"' :: ':' :: rest)) key rest := by
  have read := readKey_colon (readString_written key.toList (':' :: rest)) (skipSpace_token rfl rest)
  rwa [String.ofList_toList] at read

theorem writeString_append (s rest : List Char) :
    writeString s ++ rest = '"' :: (s.flatMap escapedChar ++ '"' :: rest) := by
  simp [writeString]

theorem readMembers_written {key : String} {v : Value} {more : Fields}
    (reads : ∀ member ∈ (key, v) :: more, ReadsBack room member.2) (rest : List Char) :
    Gives (readMembers room
      (key.toList.flatMap escapedChar ++ '"' :: ':' :: (v.write ++ (Value.writeFields more ++ rest))))
      ((key, v) :: more) rest := by
  have named := readKey_written key (v.write ++ (Value.writeFields more ++ rest))
  have read := reads (key, v) (List.mem_cons_self ..)
  induction more generalizing key v with
  | nil =>
    rw [Value.writeFields] at named ⊢
    exact readMembers_last named (read _ (apart_cons (by decide) rest)) (skipSpace_token rfl rest)
  | cons member more ih =>
    obtain ⟨key', w⟩ := member
    rw [Value.writeFields, List.cons_append, List.append_assoc, writeString_append,
      List.cons_append, List.append_assoc] at named ⊢
    have rest_reads : ∀ member ∈ (key', w) :: more, ReadsBack room member.2 :=
      fun member inRest => reads member (List.mem_cons_of_mem _ inRest)
    have more_read := ih rest_reads (readKey_written key' _) (rest_reads _ (List.mem_cons_self ..))
    exact readMembers_cons named (read _ (apart_cons (by decide) _)) (skipSpace_token rfl _)
      (skipSpace_token rfl _) more_read

/-- An object is read back with its members put in order. -/
theorem readValue_written_object {fields : Fields}
    (reads : ∀ member ∈ fields, ReadsBack room member.2) (rest : List Char) :
    Gives (readValue (room + 1) ((Value.object fields).write ++ rest)) (.ofFields fields) rest := by
  cases fields with
  | nil =>
    rw [Value.write]
    exact readValue_object (skipSpace_token rfl _) (.inl ⟨rfl, skipSpace_token rfl rest⟩)
  | cons member more =>
    obtain ⟨key, v⟩ := member
    rw [Value.write, List.cons_append, List.append_assoc, writeString_append, List.cons_append,
      List.append_assoc]
    exact readValue_object (skipSpace_token rfl _)
      (.inr ⟨_, skipSpace_token rfl _, readMembers_written reads rest⟩)

/-- Every legible value is read back from its text. -/
theorem Legible.readsBack {v : Value} (legible : Legible room v) : ReadsBack room v := by
  induction legible with
  | null => exact fun rest _ => readValue_constant .null (skipSpace_token rfl _)
  | bool b =>
    cases b with
    | false => exact fun rest _ => readValue_constant .false (skipSpace_token rfl _)
    | true => exact fun rest _ => readValue_constant .true (skipSpace_token rfl _)
  | @number room n fits =>
    intro rest apart
    obtain ⟨c, more, head, first⟩ := write_integer_head n
    have read := readNumber_write fits apart
    rw [Value.write]
    rw [head] at read ⊢
    exact readValue_number first (skipSpace_token (token_of_numeral first).1 _) read
  | string s =>
    intro rest apart
    have whole : Value.string s = .string (String.ofList s.toList) := by
      rw [String.ofList_toList]
    rw [Value.write, writeString_append, whole]
    exact readValue_string (skipSpace_token rfl _) (readString_written s.toList rest)
  | @array room items legible reads =>
    intro rest apart
    cases items with
    | nil =>
      rw [Value.write]
      exact readValue_array (skipSpace_token rfl _) (.inl ⟨rfl, skipSpace_token rfl rest⟩)
    | cons v more =>
      rw [Value.write, List.cons_append, List.append_assoc]
      exact readValue_array (skipSpace_token rfl _)
        (.inr ⟨(legible v (List.mem_cons_self ..)).skipSpace_write _,
          readItems_written legible reads rest⟩)
  | @object room fields sorted legible reads =>
    intro rest apart
    have read := readValue_written_object reads rest
    rwa [ofFields_of_sorted sorted] at read

/-- A legible object is read back when it is the whole text, with its members put in order. -/
theorem readText_written_object {fields : Fields}
    (legible : ∀ member ∈ fields, Legible 126 member.2) :
    readText (Value.object fields).write = .ok (.ofFields fields) := by
  have reads : ∀ member ∈ fields, ReadsBack 126 member.2 :=
    fun member inFields => (legible member inFields).readsBack
  have read := readValue_written_object reads []
  rw [List.append_nil] at read
  obtain ⟨shorter, read⟩ := read
  rw [readText, maxLevels, read]
  rfl

theorem exists_writeFields_eq (fields : Fields) :
    ∃ body, Value.writeFields fields = body ++ ['\x7d'] := by
  induction fields with
  | nil => exact ⟨[], rfl⟩
  | cons member rest ih =>
    obtain ⟨body, written⟩ := ih
    obtain ⟨key, v⟩ := member
    refine ⟨',' :: (writeString key.toList ++ ':' :: (v.write ++ body)), ?_⟩
    rw [Value.writeFields, written]
    simp

/-- The text of an object is enclosed in braces. -/
theorem exists_write_object_eq (fields : Fields) :
    ∃ body, (Value.object fields).write = '\x7b' :: (body ++ ['\x7d']) := by
  cases fields with
  | nil => exact ⟨[], rfl⟩
  | cons member rest =>
    obtain ⟨body, written⟩ := exists_writeFields_eq rest
    obtain ⟨key, v⟩ := member
    refine ⟨writeString key.toList ++ ':' :: (v.write ++ body), ?_⟩
    rw [Value.write, written]
    simp

end Dialogue.Json
