import Dialogue.Json.Reader.Quoted
import Dialogue.Json.Reader.Numeral

/-! # Reading JSON

Reading is strict: no comments, no trailing commas, no unpaired surrogates, and at most 127 levels
of nesting. A member that is repeated keeps its last value. -/

namespace Dialogue.Json

open Text (isDigit)

/-- Reads the letters of a word. -/
def readWord : List Char → List Char → Except Fault (List Char)
  | [], s => .ok s
  | _ :: _, [] => fault .unfinishedValue [] 0
  | c :: more, d :: s => if c = d then readWord more s else fault .noSuchWord (d :: s) 1

theorem length_readWord {word s r : List Char} (h : readWord word s = .ok r) :
    r.length ≤ s.length := by
  induction word generalizing s with
  | nil => cases h; exact Nat.le_refl _
  | cons c more ih =>
    cases s with
    | nil => cases h
    | cons d s =>
      rw [readWord] at h
      split at h
      · exact Nat.le_succ_of_le (ih h)
      · cases h

/-! ## Values -/

/-- A reading that takes at least one character. -/
abbrev Reading (α : Type) (s : List Char) := Except Fault (α × Rest s)

/-- Builds on a reading of a later part `r` of `s` to make a reading of `s`. -/
def build {α β : Type} {r s : List Char} (f : α → β) (h : r.length ≤ s.length)
    (x : Reading α r) : Reading β s :=
  x.map fun (a, rest) => (f a, ⟨rest.1, Nat.lt_of_lt_of_le rest.2 h⟩)

/-- Reads the rest of a word that stands for `v`. -/
def readConstant (word : List Char) (v : Value) (s : List Char) :
    Except Fault (Value × { r : List Char // r.length ≤ s.length }) :=
  match h : readWord word s with
  | .ok r => .ok (v, ⟨r, length_readWord h⟩)
  | .error e => .error e

/-- Reads a value that is a number. -/
def readNumberValue (s : List Char) : Reading Value s :=
  match h : readNumber s with
  | .ok (n, r) => .ok (.number n, ⟨r, length_readNumber h⟩)
  | .error e => .error e

/-- Reads a key and the colon after it. -/
def readKey (s : List Char) : Reading String s := do
  let (cs, rest) ← readString s
  match h : skipSpace rest.1 with
  | [] => fault .unfinishedObject [] 0
  | ':' :: r =>
    .ok (String.ofList cs, ⟨r, Nat.lt_trans (length_of_skipSpace h) rest.2⟩)
  | r => fault .noColon r 1

mutual

/-- Reads a value that may hold `room` more levels of arrays and objects. -/
def readValue (room : Nat) (s : List Char) : Reading Value s :=
  match hs : skipSpace s with
  | [] => fault .unfinishedValue [] 0
  | c :: r =>
    have hlen : r.length < s.length := length_of_skipSpace hs
    let constant (word : List Char) (v : Value) : Reading Value s :=
      (readConstant word v r).map fun (v, rest) => (v, ⟨rest, Nat.lt_of_le_of_lt rest.2 hlen⟩)
    if c = 'n' then constant ['u', 'l', 'l'] .null
    else if c = 't' then constant ['r', 'u', 'e'] (.bool true)
    else if c = 'f' then constant ['a', 'l', 's', 'e'] (.bool false)
    else if c = '-' || isDigit c then
      build id (show (c :: r).length ≤ s.length from hlen) (readNumberValue (c :: r))
    else if c = '"' then
      build (fun cs => .string (String.ofList cs)) (Nat.le_of_lt hlen) (readString r)
    else if c = '[' then
      match room with
      | 0 => fault .tooDeep (c :: r) 1
      | room + 1 =>
        match hr : skipSpace r with
        | [] => fault .unfinishedList [] 0
        | ']' :: t => .ok (.array [], ⟨t, Nat.lt_trans (length_of_skipSpace hr) hlen⟩)
        | _ => build .array (Nat.le_of_lt hlen) (readItems room r)
    else if c = '\x7b' then
      match room with
      | 0 => fault .tooDeep (c :: r) 1
      | room + 1 =>
        match hr : skipSpace r with
        | [] => fault .unfinishedObject [] 0
        | '\x7d' :: t => .ok (.object [], ⟨t, Nat.lt_trans (length_of_skipSpace hr) hlen⟩)
        | '"' :: t =>
          have ht : t.length < r.length := length_of_skipSpace hr
          build .ofFields (Nat.le_of_lt (Nat.lt_trans ht hlen)) (readMembers room t)
        | t => fault .keyNoString t 1
    else fault .noValue (c :: r) 1
termination_by (s.length, 0)

/-- Reads an item of an array and those after it, up to the closing bracket. -/
def readItems (room : Nat) (s : List Char) : Reading (List Value) s := do
  let (v, rest) ← readValue room s
  match hs : skipSpace rest.1 with
  | [] => fault .unfinishedList [] 0
  | c :: r =>
    have hlen : r.length < rest.1.length := length_of_skipSpace hs
    have hrest := rest.2
    if c = ']' then .ok ([v], ⟨r, Nat.lt_trans hlen hrest⟩)
    else if c = ',' then
      match skipSpace r with
      | [] => fault .unfinishedValue [] 0
      | ']' :: t => fault .trailingComma (']' :: t) 1
      | _ =>
        build (v :: ·) (by omega) (readItems room r)
    else fault .noListSeparator (c :: r) 1
termination_by (s.length, 1)

/-- Reads a member of an object from within its key and those after it, up to the closing
brace. -/
def readMembers (room : Nat) (s : List Char) : Reading Fields s := do
  let (key, rest) ← readKey s
  let (v, rest') ← readValue room rest.1
  match hs : skipSpace rest'.1 with
  | [] => fault .unfinishedObject [] 0
  | c :: r =>
    have hlen : r.length < rest'.1.length := length_of_skipSpace hs
    have hrest : rest'.1.length < s.length := Nat.lt_trans rest'.2 rest.2
    if c = '\x7d' then .ok ([(key, v)], ⟨r, Nat.lt_trans hlen hrest⟩)
    else if c = ',' then
      match hr : skipSpace r with
      | [] => fault .unfinishedValue [] 0
      | '\x7d' :: t => fault .trailingComma ('\x7d' :: t) 1
      | '"' :: t =>
        have ht : t.length < r.length := length_of_skipSpace hr
        build ((key, v) :: ·) (by omega) (readMembers room t)
      | t => fault .keyNoString t 1
    else fault .noObjectSeparator (c :: r) 1
termination_by (s.length, 0)

end

/-! ## Whole texts -/

/-- The number of levels that arrays and objects may be nested. -/
def maxLevels : Nat := 127

/-- Reads a text that holds one value. -/
def readText (s : List Char) : Except Fault Value := do
  let (v, rest) ← readValue maxLevels s
  match skipSpace rest.1 with
  | [] => .ok v
  | r => fault .trailingText r 1

/-- Reads a string that holds one value. -/
def parse (text : String) : Except SyntaxError Value :=
  let s := text.toList
  match readText s with
  | .ok v => .ok v
  | .error e =>
    let (line, column) := place (Text.byteLength s - e.bytesAfter) s (1, 0)
    .error ⟨e.cause, line, column⟩

end Dialogue.Json
