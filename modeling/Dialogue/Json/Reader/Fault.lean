import Dialogue.Json.Value
import Dialogue.Text.Utf8

/-! # What can be wrong with JSON

A text that is no JSON is refused with the first thing wrong with it and its place. Readers take
the text that is left, so a fault is noted by what comes after it; its line and column, where
columns count bytes, are worked out at the end. -/

namespace Dialogue.Json

/-- What can be wrong with a text. -/
inductive Cause where
  | unfinishedList
  | unfinishedObject
  | unfinishedString
  | unfinishedValue
  | noColon
  | noListSeparator
  | noObjectSeparator
  | noSuchWord
  | noValue
  | badEscape
  | badNumber
  | numberRange
  | controlCharacter
  | keyNoString
  | loneSurrogate
  | halfSurrogatePair
  | trailingComma
  | trailingText
  | tooDeep
  deriving DecidableEq, Repr

/-- The wording of a cause. -/
def Cause.message : Cause → String
  | unfinishedList => "EOF while parsing a list"
  | unfinishedObject => "EOF while parsing an object"
  | unfinishedString => "EOF while parsing a string"
  | unfinishedValue => "EOF while parsing a value"
  | noColon => "expected `:`"
  | noListSeparator => "expected `,` or `]`"
  | noObjectSeparator => "expected `,` or `\x7d`"
  | noSuchWord => "expected ident"
  | noValue => "expected value"
  | badEscape => "invalid escape"
  | badNumber => "invalid number"
  | numberRange => "number out of range"
  | controlCharacter => "control character (\\u0000-\\u001F) found while parsing a string"
  | keyNoString => "key must be a string"
  | loneSurrogate => "lone leading surrogate in hex escape"
  | halfSurrogatePair => "unexpected end of hex escape"
  | trailingComma => "trailing comma"
  | trailingText => "trailing characters"
  | tooDeep => "recursion limit exceeded"

/-- A fault and the number of bytes of the text that come after its place. -/
structure Fault where
  cause : Cause
  bytesAfter : Nat
  deriving DecidableEq, Repr

/-- The fault `cause`, found `n` bytes into the rest `s`. -/
def fault {α : Type} (cause : Cause) (s : List Char) (n : Nat) : Except Fault α :=
  .error ⟨cause, Text.byteLength s - n⟩

/-- Why a text is no JSON: what is wrong, and where. -/
structure SyntaxError where
  cause : Cause
  line : Nat
  column : Nat
  deriving DecidableEq, Repr

/-- The wording of a syntax error. -/
def SyntaxError.message (e : SyntaxError) : String :=
  e.cause.message ++ " at line " ++ toString e.line ++ " column " ++ toString e.column

/-- The line and the column after `n` bytes of a text, on top of those before it. -/
def place : Nat → List Char → Nat × Nat → Nat × Nat
  | _, [], position => position
  | 0, _, position => position
  | n + 1, c :: rest, (line, column) =>
    if c = '\n' then place n rest (line + 1, 0)
    else if c.utf8Size ≤ n + 1 then place (n + 1 - c.utf8Size) rest (line, column + c.utf8Size)
    else (line, column + (n + 1))

/-- A part of a text that is strictly shorter. -/
abbrev Rest (s : List Char) := { r : List Char // r.length < s.length }

/-- The blanks that may stand between tokens. -/
def isSpace (c : Char) : Bool := c = ' ' || c = '\n' || c = '\t' || c = '\r'

/-- The text from its first token on. -/
def skipSpace (s : List Char) : List Char := s.dropWhile isSpace

theorem length_skipSpace (s : List Char) : (skipSpace s).length ≤ s.length :=
  (List.dropWhile_suffix isSpace).length_le

theorem length_of_skipSpace {s r : List Char} {c : Char} (h : skipSpace s = c :: r) :
    r.length < s.length := by
  have shorter := length_skipSpace s
  rw [h] at shorter
  exact shorter

end Dialogue.Json
