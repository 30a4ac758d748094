import Dialogue.Session.Basic
import Dialogue.Time.Writer

/-! # Writing a session

A session is written as an object with all its members, those that are absent as null. A draft
goal leaves out the members it does not have and gives back those it did not know. -/

namespace Dialogue

open Json (Value)

/-- Writes a point of time that may be absent. -/
def Time.Instant.toJson? : Option Time.Instant → Value
  | some t => .string t.text
  | none => .null

/-- Writes a message. -/
def Message.toJson (m : Message) : Value :=
  .object [("content", .string m.content), ("role", .string m.role.label),
    ("timestamp", Time.Instant.toJson? m.timestamp)]

/-- Writes a draft goal. -/
def DraftGoal.toJson (g : DraftGoal) : Value :=
  let put (key : String) (v : Option Value) (fields : Json.Fields) : Json.Fields :=
    match v with
    | some v => Json.insertField key v fields
    | none => fields
  .object <| put "objective" (g.objective.map .string) <|
    put "success_metrics" g.successMetrics <|
    put "target_date" (g.targetDate.map .string) g.extra

/-- Writes a draft goal that may be absent. -/
def DraftGoal.toJson? : Option DraftGoal → Value
  | some g => g.toJson
  | none => .null

/-- Writes a session. -/
def Session.toJson (s : Session) : Value :=
  .object [("board_id", .string s.boardId), ("created_at", Time.Instant.toJson? s.createdAt),
    ("draft_goal", DraftGoal.toJson? s.draftGoal), ("id", .string s.id),
    ("messages", .array (s.messages.map Message.toJson)),
    ("session_key", .string s.sessionKey), ("status", .string s.status.label),
    ("updated_at", Time.Instant.toJson? s.updatedAt)]

end Dialogue
