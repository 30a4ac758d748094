import Dialogue.Session.Basic
import Dialogue.Json.Shape
import Dialogue.Text.Blank

/-! # Reading a session

A session is read from an object. Its members are looked at in the order of their keys, so of
several faulty ones the first in that order is reported, and a member that is missing is reported
only when those that are there are sound. Unknown members do not matter. The ids of the session
and of its board must not be blank. -/

namespace Dialogue

open Json (Value Fields ShapeError Decoder)

/-- Reads a message from the members of an object. -/
def Message.ofFields (fields : Fields) : Except ShapeError Message := do
  let content ← Json.decodeField fields "content" Json.decodeText
  let role ← Json.decodeField fields "role" (Json.decodeLabel Role.labels)
  let timestamp ← Json.decodeField fields "timestamp" Json.decodeTime
  let role ← Json.present "role" role
  let content ← Json.present "content" content
  .ok ⟨role, content, timestamp.join⟩

/-- The length of a message that is written as an array. -/
def Message.arrayLength : String := "struct Message with 3 elements"

/-- Reads a message from an array of its role, its content and, if it is there, its time. -/
def Message.ofItems : List Value → Except ShapeError Message
  | [] => .error (.wrongLength 0 arrayLength)
  | role :: rest => do
    let role ← Json.decodeLabel Role.labels role
    match rest with
    | [] => .error (.wrongLength 1 arrayLength)
    | content :: rest =>
      let content ← Json.decodeText content
      match rest with
      | [] => .ok ⟨role, content, none⟩
      | timestamp :: rest =>
        let timestamp ← Json.decodeTime timestamp
        if rest = [] then .ok ⟨role, content, timestamp⟩
        else .error (.wrongLength (rest.length + 3) "fewer elements in array")

/-- Reads a message. -/
def Message.decode : Decoder Message
  | .object fields => ofFields fields
  | .array items => ofItems items
  | v => .error (.wrongType v "struct Message")

namespace DraftGoal

/-- The keys of the members that a draft goal knows. -/
def knownKeys : List String := ["objective", "success_metrics", "target_date"]

/-- Reads a draft goal. -/
def decode : Decoder DraftGoal
  | .object fields => do
    let objective ← Json.decodeField fields "objective" (Json.decodeNullable Json.decodeText)
    let successMetrics ← Json.decodeField fields "success_metrics" (Json.decodeNullable .ok)
    let targetDate ← Json.decodeField fields "target_date" (Json.decodeNullable Json.decodeText)
    .ok ⟨objective.join, successMetrics.join, targetDate.join,
      fields.filter fun (key, _) => !knownKeys.contains key⟩
  | v => .error (.wrongType v "struct DraftGoal")

end DraftGoal

namespace Session

/-- Reads a session from the members of an object. -/
def ofFields (fields : Fields) : Except ShapeError Session := do
  let boardId ← Json.decodeField fields "board_id" Json.decodeText
  let createdAt ← Json.decodeField fields "created_at" Json.decodeTime
  let draftGoal ← Json.decodeField fields "draft_goal" (Json.decodeNullable DraftGoal.decode)
  let id ← Json.decodeField fields "id" Json.decodeText
  let messages ←
    Json.decodeField fields "messages" (Json.decodeNullable (Json.decodeList Message.decode))
  let sessionKey ← Json.decodeField fields "session_key" Json.decodeText
  let status ← Json.decodeField fields "status" (Json.decodeLabel Status.labels)
  let updatedAt ← Json.decodeField fields "updated_at" Json.decodeTime
  let id ← Json.present "id" id
  let boardId ← Json.present "board_id" boardId
  let sessionKey ← Json.present "session_key" sessionKey
  let status ← Json.present "status" status
  .ok ⟨id, boardId, sessionKey, status, messages.join.getD [], draftGoal.join, createdAt.join,
    updatedAt.join⟩

/-- Why a value is no session. -/
inductive Fault where
  | notObject (found : Value)
  | shape (error : ShapeError)
  | blankId
  | blankBoardId
  deriving DecidableEq, Repr

/-- The wording of a fault. -/
def Fault.message : Fault → String
  | notObject found => "expected a JSON object, got " ++ found.kind
  | shape error => error.message
  | blankId => "session id is empty"
  | blankBoardId => "board id is empty"

/-- Reads a session. -/
def decode : Value → Except Fault Session
  | .object fields =>
    match ofFields fields with
    | .error e => .error (.shape e)
    | .ok s =>
      if Text.allBlank s.id then .error .blankId
      else if Text.allBlank s.boardId then .error .blankBoardId
      else .ok s
  | v => .error (.notObject v)

end Session

end Dialogue
