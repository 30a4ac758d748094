import Dialogue.Json.Value
import Dialogue.Time.Instant

/-! # Sessions

A session is the state of one conversation about a board, as the remote side reports it: who said
what so far, and the goal that the assistant drafts once it knows enough. The client replaces the
session it holds as a whole and never edits one. -/

namespace Dialogue

open Json (Value Fields)

/-- Where a session stands. A completed session has a draft goal that waits for confirmation. -/
inductive Status where
  | active
  | completed
  | confirmed
  | abandoned
  deriving DecidableEq, Repr

/-- The labels of the statuses. -/
def Status.labels : List (String × Status) :=
  [("active", .active), ("completed", .completed), ("confirmed", .confirmed),
    ("abandoned", .abandoned)]

/-- The label of a status. -/
def Status.label : Status → String
  | active => "active"
  | completed => "completed"
  | confirmed => "confirmed"
  | abandoned => "abandoned"

/-- Who wrote a message. -/
inductive Role where
  | user
  | assistant
  deriving DecidableEq, Repr

/-- The labels of the roles. -/
def Role.labels : List (String × Role) := [("user", .user), ("assistant", .assistant)]

/-- The label of a role. -/
def Role.label : Role → String
  | user => "user"
  | assistant => "assistant"

/-- One turn of the conversation. The content is plain prose, or a question in JSON. -/
structure Message where
  role : Role
  content : String
  timestamp : Option Time.Instant
  deriving DecidableEq, Repr

/-- The goal that the assistant drafts. Members that the client does not know are kept in
`extra`. -/
structure DraftGoal where
  objective : Option String
  successMetrics : Option Value
  targetDate : Option String
  extra : Fields
  deriving DecidableEq, Repr

/-- The state of a conversation. -/
structure Session where
  id : String
  boardId : String
  sessionKey : String
  status : Status
  messages : List Message
  draftGoal : Option DraftGoal
  createdAt : Option Time.Instant
  updatedAt : Option Time.Instant
  deriving DecidableEq, Repr

namespace Session

/-- The last message. -/
def latestMessage? (s : Session) : Option Message := s.messages.getLast?

/-- The last message of the assistant, whatever the user wrote after it. -/
def latestAssistantMessage? (s : Session) : Option Message :=
  s.messages.reverse.find? (·.role = .assistant)

/-- Whether the assistant has drafted a goal. -/
def hasDraftGoal (s : Session) : Bool := s.draftGoal.isSome

end Session

end Dialogue
