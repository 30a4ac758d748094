import Dialogue.Text.Charset
import Dialogue.Text.Digit

/-! # Content types

The header that says what kind of thing a body is: a type and a subtype, and parameters after them,
one of which may name a character set. -/

namespace Dialogue.ContentType

/-- Whether a character may stand in a name. -/
def isNameChar (c : Char) : Bool :=
  c.isAlpha || Text.isDigit c ||
    ['!', '#', '$', '%', '&', '\'', '*', '+', '-', '.', '^', '_', '\x60', '|', '~'].contains c

/-- Whether a character may stand in a quoted value. -/
def isQuotedChar (c : Char) : Bool := 0x20 ≤ c.toNat && c.toNat < 0x7F && c ≠ '"'

/-- Takes a name off a text. -/
def name? (s : List Char) : Option (List Char × List Char) :=
  match Text.breakAt (!isNameChar ·) s with
  | ([], _) => none
  | found => some found

/-- Takes the value of a parameter off a text, and what has to follow it. -/
def value? : List Char → Option (List Char × List Char)
  | '"' :: s =>
    match Text.breakAt (!isQuotedChar ·) s with
    | (value, '"' :: rest) =>
      match rest.dropWhile (· = ' ') with
      | [] => some (value, [])
      | ';' :: rest => some (value, rest)
      | _ => none
    | _ => none
  | s =>
    match Text.breakAt (!isNameChar ·) s with
    | (value, []) => some (value, [])
    | (value, ';' :: rest) => if value = [] then none else some (value, rest)
    | _ => none

/-- Reads the parameters in a text, of which there are at most `limit`. -/
def parameters? : Nat → List Char → Option (List (List Char × List Char))
  | 0, _ => none
  | limit + 1, s =>
    match s.dropWhile (· = ' ') with
    | [] => some []
    | s => do
      let (name, rest) ← name? s
      match rest with
      | '=' :: rest =>
        let (value, rest) ← value? rest
        let more ← parameters? limit rest
        some ((Text.lowerCase name, value) :: more)
      | _ => none

/-- Reads the parameters of a content type. -/
def parametersOf? (s : List Char) : Option (List (List Char × List Char)) := do
  let (_, rest) ← name? s
  match rest with
  | '/' :: rest =>
    let (_, rest) ← name? rest
    match rest with
    | [] => some []
    | ';' :: rest => parameters? (rest.length + 1) rest
    | _ => none
  | _ => none

/-- The character set that a content type names. A body is in UTF-8 if none is named that is
known. -/
def charset (contentType : String) : Text.Charset :=
  let named := do
    let parameters ← parametersOf? contentType.toList
    let label ← parameters.lookup "charset".toList
    Text.Charset.ofLabel? (String.ofList label)
  named.getD .utf8

end Dialogue.ContentType
