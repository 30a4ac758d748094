import Dialogue.Failure
import Dialogue.Proofs.Json.Shape

/-! # Members that are not known

A session, its messages and its goal may hold members that the client does not know. A value is
read as it is without them, but for what the goal keeps of those that it does not know. -/

namespace Dialogue

open Json (Value Fields)

/-- The keys of the members that a message knows. -/
def Message.knownKeys : List String := ["content", "role", "timestamp"]

/-- A message without the members that are not known. -/
def Message.knownPart : Value → Value
  | .object fields => .object (Json.only knownKeys fields)
  | v => v

/-- A draft goal without the members that are not known. -/
def DraftGoal.knownPart : Value → Value
  | .object fields => .object (Json.only knownKeys fields)
  | v => v

/-- The draft goal as it is read when no member is there that it does not know. -/
def DraftGoal.bare (g : DraftGoal) : DraftGoal := { g with extra := [] }

namespace Session

/-- The keys of the members that a session knows. -/
def knownKeys : List String :=
  ["board_id", "created_at", "draft_goal", "id", "messages", "session_key", "status", "updated_at"]

/-- The messages of a session without the members that are not known. -/
def knownMessages : Value → Value
  | .array items => .array (items.map Message.knownPart)
  | v => v

/-- The value of a member of a session without the members that are not known. -/
def knownMember (key : String) (v : Value) : Value :=
  if key = "draft_goal" then DraftGoal.knownPart v
  else if key = "messages" then knownMessages v
  else v

/-- The known members of a session, with what is known of their values. -/
def knownFields (fields : Fields) : Fields :=
  Json.mapMembers knownMember (Json.only knownKeys fields)

/-- A session without the members that are not known, its own and those of what it is made of. -/
def knownPart : Value → Value
  | .object fields => .object (knownFields fields)
  | v => v

/-- The session as it is read when no member is there that is not known. -/
def bare (s : Session) : Session := { s with draftGoal := s.draftGoal.map DraftGoal.bare }

end Session

theorem Message.decode_knownPart (v : Value) : decode (knownPart v) = decode v := by
  cases v with
  | object fields =>
    show ofFields _ = ofFields fields
    unfold ofFields
    rw [Json.decodeField_only (by simp [knownKeys]), Json.decodeField_only (by simp [knownKeys]),
      Json.decodeField_only (by simp [knownKeys])]
  | _ => rfl

theorem DraftGoal.decode_knownPart (v : Value) : decode (knownPart v) = (decode v).map bare := by
  cases v with
  | object fields =>
    simp only [decode, knownPart, Except.map_do]
    rw [Json.decodeField_only (by simp [knownKeys]), Json.decodeField_only (by simp [knownKeys]),
      Json.decodeField_only (by simp [knownKeys])]
    have none : (Json.only knownKeys fields).filter (fun x => !knownKeys.contains x.1) = [] :=
      Json.without_only knownKeys fields
    rw [none]
    rfl
  | _ => rfl

namespace Session

theorem decodeItems_knownPart (items : List Value) :
    Json.decodeItems Message.decode (items.map Message.knownPart) =
      Json.decodeItems Message.decode items := by
  induction items with
  | nil => rfl
  | cons v rest ih => rw [List.map_cons, Json.decodeItems, Json.decodeItems, ih,
      Message.decode_knownPart]

theorem decode_knownMessages (v : Value) :
    Json.decodeNullable (Json.decodeList Message.decode) (knownMessages v) =
      Json.decodeNullable (Json.decodeList Message.decode) v := by
  cases v with
  | array items => exact congrArg (Except.map some) (decodeItems_knownPart items)
  | _ => rfl

theorem decode_knownGoal (v : Value) :
    Json.decodeNullable DraftGoal.decode (DraftGoal.knownPart v) =
      (Json.decodeNullable DraftGoal.decode v).map (Option.map DraftGoal.bare) := by
  cases v with
  | object fields =>
    show Except.map some (DraftGoal.decode (DraftGoal.knownPart (.object fields))) =
      Except.map _ (Except.map some (DraftGoal.decode (.object fields)))
    rw [DraftGoal.decode_knownPart]
    cases DraftGoal.decode (.object fields) <;> rfl
  | _ => rfl

section Members

variable {fields : Fields} {α : Type} {key : String}

theorem decodeField_known (known : key ∈ knownKeys) (decode : Json.Decoder α) :
    Json.decodeField (knownFields fields) key decode =
      Json.decodeField fields key fun v => decode (knownMember key v) := by
  rw [knownFields, Json.decodeField_mapMembers, Json.decodeField_only known]

theorem decodeField_plain (known : key ∈ knownKeys) (goal : key ≠ "draft_goal")
    (messages : key ≠ "messages") (decode : Json.Decoder α) :
    Json.decodeField (knownFields fields) key decode = Json.decodeField fields key decode := by
  rw [decodeField_known known]
  simp only [knownMember, if_neg goal, if_neg messages]

theorem decodeField_messages :
    Json.decodeField (knownFields fields) "messages"
        (Json.decodeNullable (Json.decodeList Message.decode)) =
      Json.decodeField fields "messages"
        (Json.decodeNullable (Json.decodeList Message.decode)) := by
  rw [decodeField_known (by simp [knownKeys])]
  exact congrArg _ (funext decode_knownMessages)

theorem decodeField_goal :
    Json.decodeField (knownFields fields) "draft_goal" (Json.decodeNullable DraftGoal.decode) =
      (Json.decodeField fields "draft_goal" (Json.decodeNullable DraftGoal.decode)).map
        (Option.map (Option.map DraftGoal.bare)) := by
  rw [decodeField_known (by simp [knownKeys]), Json.decodeField, Json.decodeField]
  cases fields.lookup "draft_goal" with
  | none => rfl
  | some v =>
    show Except.map some (Json.decodeNullable DraftGoal.decode (DraftGoal.knownPart v)) =
      Except.map _ (Except.map some (Json.decodeNullable DraftGoal.decode v))
    rw [decode_knownGoal]
    cases Json.decodeNullable DraftGoal.decode v <;> rfl

/-- The known members are read as all of them are, apart from what the goal does not know. -/
theorem ofFields_known : ofFields (knownFields fields) = (ofFields fields).map bare := by
  simp (disch := decide) only [ofFields, decodeField_plain, decodeField_goal,
    decodeField_messages, Except.map_do, Except.do_map, Option.join_map_eq_map_join]
  rfl

end Members

/-- What is not known changes nothing in what a value is read as, not even what is reported of a
value that is no session, except for what the goal keeps. -/
theorem ofJson_knownPart (v : Value) : ofJson (knownPart v) = (ofJson v).map bare := by
  cases v with
  | object fields =>
    simp only [ofJson, decode, knownPart, ofFields_known]
    cases ofFields fields with
    | error e => rfl
    | ok s =>
      have id : s.bare.id = s.id := rfl
      have board : s.bare.boardId = s.boardId := rfl
      simp only [Except.map, id, board]
      by_cases blank : Text.allBlank s.id = true
      · simp [blank]
      · by_cases blank_board : Text.allBlank s.boardId = true
        · simp [blank, blank_board]
        · simp [blank, blank_board]
  | _ => rfl

/-- Values that differ in members that are not known are both sessions or both none. -/
theorem accepted_of_knownPart_eq {v w : Value} (same : knownPart v = knownPart w)
    (accepted : ∃ s, ofJson v = .ok s) : ∃ s, ofJson w = .ok s := by
  obtain ⟨s, read⟩ := accepted
  have both : (ofJson w).map bare = (ofJson v).map bare := by
    rw [← ofJson_knownPart, ← ofJson_knownPart, same]
  rw [read] at both
  obtain ⟨t, read', -⟩ := Except.map_eq_ok.mp both
  exact ⟨t, read'⟩

end Session

end Dialogue
