import Dialogue.Failure
import Dialogue.Json.Shape

/-! # Answers

What the user answers to a question, and the body of the request that carries it. -/

namespace Dialogue

open Json (Value Fields ShapeError Decoder)

/-- An answer: one of the options, free text, or free text in place of the options. -/
inductive Answer where
  | option (label : String)
  | freeText (text : String)
  | other (text : String)
  deriving DecidableEq, Repr

/-- The body of an answer request. -/
structure AnswerBody where
  answer : String
  otherText : Option String
  deriving DecidableEq, Repr

/-- The label of the option that asks for free text. -/
def otherOption : String := "Other"

namespace Answer

/-- What the user wrote or chose. -/
def text : Answer → String
  | option label => label
  | freeText text => text
  | other text => text

/-- What kind of answer it is, in a message. -/
def kind : Answer → String
  | option _ => "option"
  | freeText _ => "answer"
  | other _ => "other answer"

/-- An answer must not be blank. -/
def validate (a : Answer) : Except ActionError Unit :=
  if Text.allBlank a.text then .error (.invalidInput (a.kind ++ " is empty")) else .ok ()

/-- The body of the request. A label is sent as it is, text is trimmed. -/
def body : Answer → AnswerBody
  | option label => ⟨label, none⟩
  | freeText text => ⟨Text.trimmed text, none⟩
  | other text => ⟨otherOption, some (Text.trimmed text)⟩

end Answer

namespace AnswerBody

/-- Writes the body. -/
def toJson (b : AnswerBody) : Value :=
  match b.otherText with
  | none => .object [("answer", .string b.answer)]
  | some text => .object [("answer", .string b.answer), ("other_text", .string text)]

/-- Reads a body from the items of an array. -/
def ofItems : List Value → Except ShapeError AnswerBody
  | [] => .error (.wrongLength 0 "struct AnswerRequest with 2 elements")
  | answer :: rest => do
    let answer ← Json.decodeText answer
    match rest with
    | [] => .ok ⟨answer, none⟩
    | otherText :: rest =>
      let otherText ← Json.decodeNullable Json.decodeText otherText
      if rest = [] then .ok ⟨answer, otherText⟩
      else .error (.wrongLength (rest.length + 2) "fewer elements in array")

/-- Reads a body. -/
def decode : Decoder AnswerBody
  | .object fields => do
    let answer ← Json.decodeField fields "answer" Json.decodeText
    let otherText ← Json.decodeField fields "other_text" (Json.decodeNullable Json.decodeText)
    let answer ← Json.present "answer" answer
    .ok ⟨answer, otherText.join⟩
  | .array items => ofItems items
  | v => .error (.wrongType v "struct AnswerRequest")

end AnswerBody

end Dialogue
