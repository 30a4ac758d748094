import Dialogue.DomainName.Composition
import Dialogue.Text.CombiningClass

/-! # The composed form of a name

One text can be written in several ways: with an accented letter, or with a letter and an accent,
or with two accents in either order. The composed form is one of them: everything is taken apart,
the marks after each letter are put in the order of their classes, and what can be put together
is. -/

namespace Dialogue.DomainName

/-! ## Syllables of Hangul -/

/-- The first of the syllables, and those of the letters that begin a syllable, carry it and close
it. No letter closes an open syllable, and the letters that close one come after this code point. -/
def syllables : Nat := 0xAC00
def initials : Nat := 0x1100
def vowels : Nat := 0x1161
def finals : Nat := 0x11A7

/-- The number of letters that begin a syllable, and of those that carry it. -/
def initialCount : Nat := 19
def vowelCount : Nat := 21

/-- The number of ways to close a syllable; the first is to leave it open. -/
def finalCount : Nat := 28

/-- The number of a syllable among all. -/
def syllable? (n : Nat) : Option Nat :=
  if syllables ≤ n ∧ n < syllables + initialCount * vowelCount * finalCount then
    some (n - syllables)
  else none

/-- The two parts of a syllable: an open syllable and the letter that closes it, or two letters. -/
def syllableParts (k : Nat) : Nat × Nat :=
  if k % finalCount = 0 then
    (initials + k / finalCount / vowelCount, vowels + k / finalCount % vowelCount)
  else (syllables + (k - k % finalCount), finals + k % finalCount)

/-- The syllable that two parts make. -/
def joinSyllable? (a b : Nat) : Option Nat :=
  if initials ≤ a ∧ a < initials + initialCount ∧ vowels ≤ b ∧ b < vowels + vowelCount then
    some (syllables + ((a - initials) * vowelCount + (b - vowels)) * finalCount)
  else match syllable? a with
    | some k =>
      if k % finalCount = 0 ∧ finals < b ∧ b < finals + finalCount then some (a + (b - finals))
      else none
    | none => none

/-! ## Taking apart and putting together -/

/-- The two parts of a code point. -/
def parts? (n : Nat) : Option (Nat × Nat) :=
  match syllable? n with
  | some k => some (syllableParts k)
  | none =>
    (compositions.find? fun (_, _, whole) => whole = n).map fun (first, second, _) =>
      (first, second)

/-- The character that two code points make. -/
def join? (a b : Nat) : Option Nat :=
  match joinSyllable? a b with
  | some n => some n
  | none =>
    (compositions.find? fun (first, second, _) => first = a && second = b).map
      fun (_, _, whole) => whole

/-- The parts of a code point, of whose parts the first is taken apart in turn, up to `depth`
times in all. -/
def takenApart : Nat → Nat → List Nat
  | 0, n => [n]
  | depth + 1, n =>
    match parts? n with
    | some (first, second) => takenApart depth first ++ [second]
    | none => [n]

/-- No character is made of more than a letter and two marks. -/
def fullDepth : Nat := 2

/-- Puts a character before an ordered text: after the marks whose class is less than its own. -/
def insertOrdered (c : Char) : List Char → List Char
  | [] => [c]
  | d :: rest =>
    if Text.combiningClass d ≠ 0 ∧ Text.combiningClass d < Text.combiningClass c then
      d :: insertOrdered c rest
    else c :: d :: rest

/-- The text with the marks after each letter in the order of their classes. Marks of one class
keep their order. -/
def ordered (s : List Char) : List Char := s.foldr insertOrdered []

/-- Whether the marks between a letter and a character keep the two from touching. -/
def isBlocked (marks : List Char) (c : Char) : Bool :=
  marks.getLast?.any fun m => Text.combiningClass c ≤ Text.combiningClass m

/-- Puts together a letter, the marks that stay apart from it, and the text after them. -/
def joinedFrom (letter : Char) (marks : List Char) : List Char → List Char
  | [] => letter :: marks
  | c :: rest =>
    match if isBlocked marks c then none else join? letter.toNat c.toNat with
    | some n => joinedFrom (Char.ofNat n) marks rest
    | none =>
      if Text.combiningClass c = 0 then letter :: marks ++ joinedFrom c [] rest
      else joinedFrom letter (marks ++ [c]) rest

/-- The text with everything put together that can be. -/
def joined : List Char → List Char
  | [] => []
  | c :: rest => joinedFrom c [] rest

/-- The composed form of a text. -/
def composed (s : List Char) : List Char :=
  joined (ordered (s.flatMap fun c => (takenApart fullDepth c.toNat).map Char.ofNat))

end Dialogue.DomainName
