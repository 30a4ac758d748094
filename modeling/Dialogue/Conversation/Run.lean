import Dialogue.Conversation.Actions
import Dialogue.Conversation.Replies

/-! # Runs

A conversation goes on by events, each of which happens at once: a part of an action, the reply to
a request, a tick of the timer, or a change of the page. Events may come in any order; a run is
any sequence of them.

An action is what the user calls for. It is carried out by its events, up to its first request or
to its end. -/

namespace Dialogue

/-- Something that happens to a conversation. -/
inductive Event where
  | start
  | refresh
  | submit (answer : Answer)
  | select (label : String)
  | submitSelection
  | submitText (text : String)
  | confirm
  | clearError
  | switchBoard (boardId : String)
  | shutdown
  | reply (seq : Nat) (reply : Reply)
  | tick
  | poll (arming : Nat)
  | setPage (active : Bool)
  | attendPage

/-- What the user can call for. -/
inductive Action where
  | start
  | refresh
  | submit (answer : Answer)
  | select (label : String)
  | submitSelection
  | submitText (text : String)
  | confirm
  | retry
  | changeBoard (boardId : String)
  | shutdown
  deriving DecidableEq, Repr

namespace Conversation

/-- A tick of the timer that is due starts its task. -/
def tick (now : Nat) (c : Conversation) : Conversation × Outcome :=
  match c.timer.fire now with
  | none => (c, .ended (.ok ()))
  | some (_, timer) => ({ c with timer }, .goesOn)

/-- The conversation after an event at the instant `now`, and how the event ends. -/
def step (now : Nat) (c : Conversation) : Event → Conversation × Outcome
  | .start => c.start now
  | .refresh => c.refresh now
  | .submit answer => c.submit now answer
  | .select label => c.select now label
  | .submitSelection => c.submitSelection now
  | .submitText text => c.submitText now text
  | .confirm => c.confirm now
  | .clearError => c.clearError now
  | .switchBoard boardId => c.switchBoard now boardId
  | .shutdown => c.shutdown now
  | .reply seq reply => c.reply now seq reply
  | .tick => c.tick now
  | .poll arming => c.poll now arming
  | .setPage active => ({ c with page := c.page.set active }, .ended (.ok ()))
  | .attendPage => (c.attendPage now, .ended (.ok ()))

/-- The first event of an action. -/
def firstEvent : Action → Event
  | .start => .start
  | .refresh => .refresh
  | .submit answer => .submit answer
  | .select label => .select label
  | .submitSelection => .submitSelection
  | .submitText text => .submitText text
  | .confirm => .confirm
  | .retry => .clearError
  | .changeBoard boardId => .switchBoard boardId
  | .shutdown => .shutdown

/-- Carries out an action up to its first request or to its end. The actions that go on after
their first event go on with a start. -/
def act (now : Nat) (action : Action) (c : Conversation) : Conversation × Outcome :=
  match c.step now (firstEvent action) with
  | (c, .goesOn) => c.start now
  | done => done

/-- The conversation after a sequence of events, each at its instant. -/
def run (c : Conversation) (events : List (Nat × Event)) : Conversation :=
  events.foldl (fun c (now, event) => (c.step now event).1) c

end Conversation

end Dialogue
