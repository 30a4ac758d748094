import Dialogue.Failure
import Dialogue.Prompt

/-! # The view

What is published of a conversation: everything that is needed to show it. The phase follows from
the session, the requests under way and the error that is shown, by the first rule that applies. -/

namespace Dialogue

/-- Which kinds of request are under way. -/
structure InFlight where
  starting : Bool
  refreshing : Bool
  submitting : Bool
  confirming : Bool
  deriving DecidableEq, Repr

/-- No request is under way. -/
def InFlight.none : InFlight := ⟨false, false, false, false⟩

/-- An error that the user sees until a retry. -/
structure SurfacedError where
  operation : Operation
  message : String
  deriving DecidableEq, Repr

/-- Shows the failure of an operation. -/
def SurfacedError.of (operation : Operation) (error : ActionError) : SurfacedError :=
  ⟨operation, error.message⟩

/-- Whether it is the user's turn: the assistant spoke last, or it has drafted a goal. -/
def Session.awaitsUser (s : Session) : Bool :=
  (s.latestMessage?.any fun m => m.role = .assistant) || s.hasDraftGoal

/-- The phase when no request but a refresh is under way and no error is shown. -/
def Session.restingPhase (s : Session) : Phase :=
  if s.status = .abandoned then .failed
  else if s.awaitsUser then .awaitingUserAnswer
  else .awaitingAssistant

/-- The phase of a conversation. A confirmed session is final; otherwise a request under way
decides, then an error, and then the session itself. -/
def Phase.project (session : Option Session) (flags : InFlight) (error : Option SurfacedError) :
    Phase :=
  if session.any fun s => s.status = .confirmed then .confirmed
  else if flags.confirming then .confirming
  else if flags.submitting then .submittingAnswer
  else if flags.starting then .starting
  else if error.isSome then .failed
  else match session with
    | some s => s.restingPhase
    | none => .starting

/-- What is published of a conversation. `reconnecting` tells that a refresh in the background
failed, which does not interrupt the conversation. -/
structure View where
  boardId : String
  phase : Phase
  prompt : Option Prompt
  selectedOption : Option String
  draftGoal : Option DraftGoal
  loading : InFlight
  error : Option SurfacedError
  reconnecting : Bool
  deriving DecidableEq, Repr

namespace View

/-- The view of a conversation that has not started. -/
def initial (boardId : String) : View :=
  ⟨boardId, .starting, none, none, none, .none, none, false⟩

/-- Whether the drafted goal can be confirmed. -/
def canConfirm (v : View) : Bool := v.draftGoal.isSome && v.phase = .awaitingUserAnswer

end View

end Dialogue
