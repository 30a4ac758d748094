import Dialogue.View
import Dialogue.Ledger
import Dialogue.Answer

/-! # The state of a conversation

What a conversation knows: the session it holds, the requests under way, the error it shows and
the option that is highlighted. The phase and the view follow from it. -/

namespace Dialogue

/-- The state of a conversation. `refreshes` counts the refreshes of the present epoch that have
not been answered. -/
structure State where
  boardId : String
  session : Option Session
  inFlight : InFlight
  refreshes : Nat
  error : Option SurfacedError
  reconnecting : Bool
  selectedOption : Option String
  ledger : Ledger
  shutDown : Bool
  deriving DecidableEq, Repr

namespace State

/-- The state before anything has been asked. -/
def initial (boardId : String) : State :=
  ⟨boardId, none, .none, 0, none, false, none, .empty, false⟩

/-- The phase of the conversation. -/
def phase (st : State) : Phase := .project st.session st.inFlight st.error

/-- What the assistant asked or told last. -/
def prompt? (st : State) : Option Prompt := st.session.bind Session.prompt?

/-- What is published of the state. -/
def view (st : State) : View where
  boardId := st.boardId
  phase := st.phase
  prompt := st.prompt?
  selectedOption := st.selectedOption
  draftGoal := st.session.bind (·.draftGoal)
  loading := st.inFlight
  error := st.error
  reconnecting := st.reconnecting

/-- Whether the assistant offers an option of this label. -/
def offers (st : State) (label : String) : Bool := st.prompt?.any (·.hasOption label)

/-- Replaces the session. When the number of messages changes, the highlighted option is
forgotten. -/
def replaceSession (st : State) (s : Session) : State :=
  let sameTurn := st.session.any fun held => held.messages.length = s.messages.length
  { st with
    session := some s
    selectedOption := if sameTurn then st.selectedOption else none }

/-- Whether a refreshed session may replace the one that is held: it is the same session, has no
fewer messages, and does not reopen one that is confirmed. -/
def acceptsRefresh (st : State) (s : Session) : Bool :=
  match st.session with
  | none => false
  | some held =>
    held.id = s.id && held.boardId = s.boardId && held.messages.length ≤ s.messages.length &&
      (held.status ≠ .confirmed || s.status = .confirmed)

/-- A refresh has been answered. Only those of the present epoch are counted. -/
def finishRefresh (st : State) (t : Ticket) : State :=
  if st.ledger.sameEpoch t then
    { st with
      refreshes := st.refreshes - 1
      inFlight := { st.inFlight with refreshing := 0 < st.refreshes - 1 } }
  else st

/-- Shows the failure of an operation. -/
def surface (st : State) (operation : Operation) (error : ActionError) : State :=
  { st with error := some (.of operation error) }

end State

end Dialogue
