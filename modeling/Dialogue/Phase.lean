/-! # Phases

Where a conversation stands, from the client's point of view. A conversation starts, alternates
between the user and the assistant, and ends when the drafted goal is confirmed. A failure of a
start, an answer or a confirmation interrupts it until it is retried. -/

namespace Dialogue

/-- A phase of a conversation. -/
inductive Phase where
  | starting
  | awaitingUserAnswer
  | submittingAnswer
  | awaitingAssistant
  | confirming
  | confirmed
  | failed
  deriving DecidableEq, Repr

namespace Phase

/-- The name of a phase. -/
def label : Phase → String
  | starting => "starting"
  | awaitingUserAnswer => "awaiting_user_answer"
  | submittingAnswer => "submitting_answer"
  | awaitingAssistant => "awaiting_assistant"
  | confirming => "confirming"
  | confirmed => "confirmed"
  | failed => "failed"

/-- Whether the conversation is over. -/
def isTerminal (p : Phase) : Bool := p = confirmed

/-- Whether the remote side should be polled. -/
def wantsPolling (p : Phase) : Bool := p = awaitingAssistant

/-- Whether the user may answer. -/
def acceptsAnswer (p : Phase) : Bool := p = awaitingUserAnswer

end Phase

end Dialogue
