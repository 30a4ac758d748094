import Dialogue.Conversation.State
import Dialogue.Call
import Dialogue.Page
import Dialogue.Timer.Basic

/-! # Conversations

A conversation is a state together with what follows it: the view that was published last, the
timer that polls the remote side while the assistant is awaited, the requests that have not been
answered, and the callback that tells the host of the confirmation.

Every change of the state ends with `commit`, which publishes the view and arms or disarms the
timer. -/

namespace Dialogue

/-- A request that was sent. `poll` is the arming of the timer whose tick sent it, if one did. -/
structure Request where
  ticket : Ticket
  call : Call
  poll : Option Nat
  deriving DecidableEq, Repr

/-- A conversation. `published` counts the views that were published and `told` how often the
callback ran; `callback` tells whether it is still there to be run. -/
structure Conversation where
  interval : Period
  page : Page
  state : State
  view : View
  published : Nat
  timer : Timer Unit
  pending : List Request
  callback : Bool
  told : Nat
  deriving DecidableEq, Repr

/-- How a part of an action ends: with its result, with a request on whose reply it waits, or by
going on with its next part. -/
inductive Outcome where
  | ended (result : Except ActionError Unit)
  | waiting (request : Request)
  | goesOn

namespace Conversation

/-- A conversation before anything has been asked. -/
def initial (boardId : String) (interval : Period) (page : Page) : Conversation where
  interval := interval
  page := page
  state := .initial boardId
  view := .initial boardId
  published := 0
  timer := .idle
  pending := []
  callback := true
  told := 0

/-- Whether the timer is to be armed: the assistant is awaited and the page is visible. -/
def wantsTimer (c : Conversation) : Bool :=
  !c.state.shutDown && c.state.phase.wantsPolling && c.page.isActive

/-- Arms or disarms the timer as the state and the page want it. -/
def syncTimer (now : Nat) (c : Conversation) : Conversation :=
  { c with timer := if c.wantsTimer then c.timer.arm now c.interval () else c.timer.disarm }

/-- Publishes the view of the state. -/
def publish (c : Conversation) : Conversation :=
  { c with view := c.state.view, published := c.published + 1 }

/-- Ends a change of the state. -/
def commit (now : Nat) (c : Conversation) : Conversation := c.publish.syncTimer now

/-- Changes the state. -/
def change (now : Nat) (st : State) (c : Conversation) : Conversation :=
  { c with state := st }.commit now

/-- Sends a request, for which the state becomes `st`. -/
def send (now : Nat) (st : State) (call : Call) (poll : Option Nat) (c : Conversation) :
    Conversation × Outcome :=
  let request : Request := ⟨st.ledger.nextTicket call.operation, call, poll⟩
  ({ c with pending := c.pending ++ [request] }.change now
      { st with ledger := st.ledger.issue call.operation },
    .waiting request)

/-- Tells the host of the confirmation, the first time. -/
def tellHost (c : Conversation) : Conversation :=
  if c.callback then { c with callback := false, told := c.told + 1 } else c

end Conversation

end Dialogue
