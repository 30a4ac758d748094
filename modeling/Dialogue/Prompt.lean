import Dialogue.Session.Basic
import Dialogue.Json.Reader
import Dialogue.Json.Writer
import Dialogue.Text.Blank

/-! # Prompts

What the assistant writes is either prose or a question in JSON,
`{"question": text, "options": [label, …]}`, perhaps inside one Markdown code fence. A prompt is
what is shown of it. Reading one never fails: content that is no question is prose. -/

namespace Dialogue

open Json (Value Fields)

/-- A question and the labels of its options. Without options it asks for free text. -/
structure Question where
  text : String
  options : List String
  deriving DecidableEq, Repr

/-- What the assistant asks or tells. -/
inductive Prompt where
  | question (q : Question)
  | plain (text : String)
  deriving DecidableEq, Repr

namespace Prompt

/-- The text to show. -/
def text : Prompt → String
  | question q => q.text
  | plain text => text

/-- The options to choose from. -/
def options : Prompt → List String
  | question q => q.options
  | plain _ => []

/-- Whether `label` is one of the options. -/
def hasOption (p : Prompt) (label : String) : Bool := p.options.contains label

/-- The mark of a code fence. -/
def fence : List Char := List.replicate 3 (Char.ofNat 0x60)

/-- The text before the first line break and the text after it. -/
def splitLine : List Char → Option (List Char × List Char)
  | [] => none
  | c :: rest =>
    if c = '\n' then some ([], rest)
    else (splitLine rest).map fun (line, after) => (c :: line, after)

/-- The content of a code fence. The rest of the line that opens it is dropped, unless the content
starts there. -/
def fencedBody (inner : List Char) : List Char :=
  match splitLine inner with
  | some (info, body) =>
    if (Text.trimStart info).head? = some '\x7b' then Text.trim inner else Text.trim body
  | none => Text.trim inner

/-- Takes one code fence off a text. -/
def stripFence (s : List Char) : List Char :=
  match fence.isPrefixOf? s with
  | none => s
  | some rest =>
    match fence.isSuffixOf? rest with
    | none => s
    | some inner => fencedBody inner

/-- The label of an option: a text, or the `label` of an object, or its `id` if it has no
label. -/
def optionText? : Value → Option String
  | .string s => some s
  | .object fields =>
    ((fields.lookup "label").bind Value.asString?).or
      ((fields.lookup "id").bind Value.asString?)
  | _ => none

/-- The trimmed label of an option. An option with a blank label is left out. -/
def optionLabel? (item : Value) : Option String :=
  match optionText? item with
  | none => none
  | some s => if Text.allBlank s then none else some (Text.trimmed s)

/-- The options of a question, if they are in order. -/
def optionLabels? (fields : Fields) : Option (List String) :=
  match fields.lookup "options" with
  | none => some []
  | some .null => some []
  | some (.array items) => some (items.filterMap optionLabel?)
  | some _ => none

/-- The question that an object describes. -/
def questionOfFields? (fields : Fields) : Option Question := do
  let text ← (fields.lookup "question").bind Value.asString?
  if Text.allBlank text then none
  else
    let options ← optionLabels? fields
    some ⟨Text.trimmed text, options⟩

/-- The question that a content holds. -/
def question? (content : String) : Option Question :=
  let body := stripFence (Text.trim content.toList)
  if body.head? = some '\x7b' then
    match Json.readText body with
    | .ok (.object fields) => questionOfFields? fields
    | _ => none
  else none

/-- Reads the content of a message of the assistant. -/
def ofContent (content : String) : Prompt :=
  match question? content with
  | some q => question q
  | none => plain (Text.trimmed content)

end Prompt

/-- What the assistant asked or told last. -/
def Session.prompt? (s : Session) : Option Prompt :=
  s.latestAssistantMessage?.map fun m => Prompt.ofContent m.content

end Dialogue
