import Dialogue.Json.Value
import Dialogue.Decimal.Layout
import Dialogue.Text.Quoted
import Dialogue.Time.Reader

/-! # The shape of a value

What can be wrong with a value that should describe something, and how the common shapes are read:
texts, values that may be null, one label out of a few, points of time, and the members of an
object. A label may also be written as an object whose only key is the label, with the value
null. -/

namespace Dialogue.Json

/-- Why a value does not have a shape. -/
inductive ShapeError where
  | wrongType (found : Value) (expected : String)
  | missingField (name : String)
  | unknownLabel (label : String) (labels : List String)
  | severalKeys
  | wrongLength (found : Nat) (expected : String)
  | badTime (text : String) (fault : Time.Fault)
  deriving DecidableEq, Repr

/-- A number, as a message shows it. -/
def Number.shown : Number → String
  | .integer n => "integer `" ++ toString n ++ "`"
  | .real bits => "floating point `" ++ String.ofList (Decimal.write bits) ++ "`"

/-- A value, as a message shows it. -/
def Value.shown : Value → String
  | .null => "null"
  | .bool b => "boolean `" ++ (if b then "true" else "false") ++ "`"
  | .number n => n.shown
  | .string s => "string " ++ Text.quoted s
  | .array _ => "sequence"
  | .object _ => "map"

/-- Several labels, as a message lists them. -/
def shownLabels : List String → String
  | [a] => "`" ++ a ++ "`"
  | [a, b] => "`" ++ a ++ "` or `" ++ b ++ "`"
  | labels => "one of " ++ ", ".intercalate (labels.map fun l => "`" ++ l ++ "`")

/-- The wording of a shape error. -/
def ShapeError.message : ShapeError → String
  | wrongType found expected => "invalid type: " ++ found.shown ++ ", expected " ++ expected
  | missingField name => "missing field `" ++ name ++ "`"
  | unknownLabel label labels =>
    "unknown variant `" ++ label ++ "`, expected " ++ shownLabels labels
  | severalKeys => "invalid value: map, expected map with a single key"
  | wrongLength found expected =>
    "invalid length " ++ toString found ++ ", expected " ++ expected
  | badTime text fault => "invalid timestamp " ++ Text.quoted text ++ ": " ++ fault.message

/-- A way to read a value. -/
abbrev Decoder (α : Type) := Value → Except ShapeError α

/-- Reads a text. -/
def decodeText : Decoder String
  | .string s => .ok s
  | v => .error (.wrongType v "a string")

/-- Reads a value that may be null. -/
def decodeNullable {α : Type} (decode : Decoder α) : Decoder (Option α)
  | .null => .ok none
  | v => (decode v).map some

/-- Reads a point of time that may be null. -/
def decodeTime (v : Value) : Except ShapeError (Option Time.Instant) := do
  match ← decodeNullable decodeText v with
  | none => .ok none
  | some text =>
    match Time.Instant.parse text with
    | .ok t => .ok (some t)
    | .error fault => .error (.badTime text fault)

/-- Finds what a label stands for. -/
def findLabel {α : Type} (labels : List (String × α)) (label : String) : Except ShapeError α :=
  match labels.lookup label with
  | some a => .ok a
  | none => .error (.unknownLabel label (labels.map (·.1)))

/-- Reads one label out of a few. -/
def decodeLabel {α : Type} (labels : List (String × α)) : Decoder α
  | .string label => findLabel labels label
  | .object [(label, v)] => do
    let a ← findLabel labels label
    if v = .null then .ok a else .error (.wrongType v "unit")
  | .object _ => .error .severalKeys
  | v => .error (.wrongType v "string or map")

/-- Reads the items of an array, one after the other. -/
def decodeItems {α : Type} (decode : Decoder α) : List Value → Except ShapeError (List α)
  | [] => .ok []
  | v :: rest => do
    let a ← decode v
    let more ← decodeItems decode rest
    .ok (a :: more)

/-- Reads an array. -/
def decodeList {α : Type} (decode : Decoder α) : Decoder (List α)
  | .array items => decodeItems decode items
  | v => .error (.wrongType v "a sequence")

/-- Reads a member if there is one of that key. -/
def decodeField {α : Type} (fields : Fields) (key : String) (decode : Decoder α) :
    Except ShapeError (Option α) :=
  match fields.lookup key with
  | none => .ok none
  | some v => (decode v).map some

/-- A member that has to be there. -/
def present {α : Type} (name : String) : Option α → Except ShapeError α
  | some a => .ok a
  | none => .error (.missingField name)

end Dialogue.Json
