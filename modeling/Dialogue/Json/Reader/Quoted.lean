import Dialogue.Json.Reader.Fault

/-! # Strings in JSON

A string stands between quotes. A backslash starts an escape; a character outside the basic plane
may be escaped as a pair of surrogates, but neither half may stand alone. -/

namespace Dialogue.Json

/-- The value of a hexadecimal digit. -/
def hexValue? (c : Char) : Option Nat :=
  if '0' ≤ c ∧ c ≤ '9' then some (c.toNat - '0'.toNat)
  else if 'a' ≤ c ∧ c ≤ 'f' then some (c.toNat - 'a'.toNat + 10)
  else if 'A' ≤ c ∧ c ≤ 'F' then some (c.toNat - 'A'.toNat + 10)
  else none

/-- Reads the four hexadecimal digits of an escape. -/
def readHex (s : List Char) : Except Fault (Nat × Rest s) :=
  match s with
  | a :: b :: c :: d :: r =>
    match hexValue? a, hexValue? b, hexValue? c, hexValue? d with
    | some a, some b, some c, some d =>
      .ok (((a * 16 + b) * 16 + c) * 16 + d, ⟨r, by simp; omega⟩)
    | _, _, _, _ => fault .badEscape (a :: b :: c :: d :: r) 4
  | s => if Text.byteLength s < 4 then fault .unfinishedString [] 0 else fault .badEscape s 4

/-- The first half of a surrogate pair. -/
def isHighSurrogate (n : Nat) : Bool := 0xD800 ≤ n && n ≤ 0xDBFF

/-- The second half of a surrogate pair. -/
def isLowSurrogate (n : Nat) : Bool := 0xDC00 ≤ n && n ≤ 0xDFFF

/-- Reads the second half of a surrogate pair and joins it with the first. -/
def readLowSurrogate (high : Nat) (s : List Char) : Except Fault (Char × Rest s) :=
  match s with
  | [] => fault .unfinishedString [] 0
  | ['\\'] => fault .unfinishedString [] 0
  | '\\' :: 'u' :: r => do
    let (low, rest) ← readHex r
    if isLowSurrogate low then
      .ok (Char.ofNat (0x10000 + (high - 0xD800) * 0x400 + (low - 0xDC00)),
        ⟨rest, by have := rest.2; simp; omega⟩)
    else fault .loneSurrogate rest.1 0
  | '\\' :: r => fault .halfSurrogatePair r 1
  | s => fault .halfSurrogatePair s 1

/-- Reads the digits of a `\u` escape, and the second escape of a surrogate pair. -/
def readCodePoint (s : List Char) : Except Fault (Char × Rest s) := do
  let (n, rest) ← readHex s
  if isLowSurrogate n then fault .loneSurrogate rest.1 0
  else if isHighSurrogate n then
    let (c, rest') ← readLowSurrogate n rest.1
    .ok (c, ⟨rest', by have := rest.2; have := rest'.2; omega⟩)
  else .ok (Char.ofNat n, rest)

/-- Reads an escape after its backslash. -/
def readEscape (s : List Char) : Except Fault (Char × Rest s) :=
  match s with
  | [] => fault .unfinishedString [] 0
  | 'u' :: r => do
    let (c, rest) ← readCodePoint r
    .ok (c, ⟨rest, by have := rest.2; simp; omega⟩)
  | c :: r =>
    let one (d : Char) : Except Fault (Char × Rest (c :: r)) := .ok (d, ⟨r, by simp⟩)
    if c = '"' || c = '\\' || c = '/' then one c
    else if c = 'b' then one '\x08'
    else if c = 'f' then one '\x0c'
    else if c = 'n' then one '\n'
    else if c = 'r' then one '\r'
    else if c = 't' then one '\t'
    else fault .badEscape (c :: r) 1

/-- Reads a string after its opening quote. -/
def readString (s : List Char) : Except Fault (List Char × Rest s) :=
  match s with
  | [] => fault .unfinishedString [] 0
  | '"' :: r => .ok ([], ⟨r, by simp⟩)
  | '\\' :: r => do
    let (c, rest) ← readEscape r
    let (cs, rest') ← readString rest.1
    .ok (c :: cs, ⟨rest', by have := rest.2; have := rest'.2; simp; omega⟩)
  | c :: r =>
    if c.toNat < 0x20 then fault .controlCharacter (c :: r) 1
    else do
      let (cs, rest) ← readString r
      .ok (c :: cs, ⟨rest, by have := rest.2; simp; omega⟩)
termination_by s.length
decreasing_by
  · have := rest.2; simp; omega
  · simp

end Dialogue.Json
