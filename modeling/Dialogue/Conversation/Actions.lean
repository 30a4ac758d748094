import Dialogue.Conversation.Basic

/-! # Actions

What the user and the timer can do in a conversation. Every function here is one part of an action
that happens at once: it looks at the state, perhaps changes it, and ends the action, sends a
request for it, or hands over to its next part. -/

namespace Dialogue.Conversation

/-- An action that ends at once. -/
def ends (c : Conversation) (result : Except ActionError Unit) : Conversation × Outcome :=
  (c, .ended result)

/-- An action that is refused. -/
def refuse (c : Conversation) (error : ActionError) : Conversation × Outcome :=
  c.ends (.error error)

/-- Starts a session, unless one is held or is being started. -/
def start (now : Nat) (c : Conversation) : Conversation × Outcome :=
  let st := c.state
  if st.shutDown then c.refuse .shutDown
  else if st.inFlight.starting || st.session.isSome then c.ends (.ok ())
  else
    c.send now { st with inFlight := { st.inFlight with starting := true }, error := none }
      (.start st.boardId) none

/-- The state when one more refresh is under way. -/
def refreshing (st : State) : State :=
  { st with refreshes := st.refreshes + 1, inFlight := { st.inFlight with refreshing := true } }

/-- Fetches the session, whatever is under way. -/
def refresh (now : Nat) (c : Conversation) : Conversation × Outcome :=
  let st := c.state
  if st.shutDown then c.refuse .shutDown
  else match st.session with
    | none => c.refuse (.notAllowed "refresh" st.phase)
    | some s => c.send now (refreshing st) (.get s.boardId s.id) none

/-- The task of a tick: fetches the session if the assistant is still awaited, the page is visible
and no refresh is under way; otherwise the task is over. -/
def poll (now arming : Nat) (c : Conversation) : Conversation × Outcome :=
  let st := c.state
  let finished := { c with timer := c.timer.finish arming }.ends (.ok ())
  if st.inFlight.refreshing || !c.wantsTimer then finished
  else match st.session with
    | none => finished
    | some s => c.send now (refreshing st) (.get s.boardId s.id) (some arming)

/-- Submits an answer. A second one while the first is under way is ignored. -/
def submit (now : Nat) (answer : Answer) (c : Conversation) : Conversation × Outcome :=
  let st := c.state
  if st.shutDown then c.refuse .shutDown
  else if st.inFlight.submitting then c.ends (.ok ())
  else if !st.phase.acceptsAnswer then c.refuse (.notAllowed "submit an answer" st.phase)
  else match answer.validate, st.session with
    | .error e, _ => c.refuse e
    | .ok (), none => c.refuse (.notAllowed "submit an answer" st.phase)
    | .ok (), some s =>
      c.send now { st with inFlight := { st.inFlight with submitting := true } }
        (.answer s.boardId s.id answer) none

/-- Highlights an option. -/
def select (now : Nat) (label : String) (c : Conversation) : Conversation × Outcome :=
  let st := c.state
  if st.shutDown then c.refuse .shutDown
  else if !st.phase.acceptsAnswer then c.refuse (.notAllowed "select an option" st.phase)
  else if !st.offers label then
    c.refuse (.invalidInput (Text.quoted label ++ " is not one of the offered options"))
  else (c.change now { st with selectedOption := some label }).ends (.ok ())

/-- Submits the highlighted option. -/
def submitSelection (now : Nat) (c : Conversation) : Conversation × Outcome :=
  match c.state.selectedOption with
  | some label => c.submit now (.option label)
  | none => c.refuse (.invalidInput "no option selected")

/-- The answer that a typed text is: in place of the options if one of them asks for that. -/
def typedAnswer (st : State) (text : String) : Answer :=
  if st.offers otherOption then .other text else .freeText text

/-- Submits a typed text. -/
def submitText (now : Nat) (text : String) (c : Conversation) : Conversation × Outcome :=
  c.submit now (typedAnswer c.state text)

/-- Confirms the drafted goal. -/
def confirm (now : Nat) (c : Conversation) : Conversation × Outcome :=
  let st := c.state
  if st.shutDown then c.refuse .shutDown
  else if st.phase.isTerminal then c.ends (.ok ())
  else if st.inFlight.confirming then c.ends (.ok ())
  else match st.session with
    | none => c.refuse (.notAllowed "confirm" st.phase)
    | some s =>
      if !s.hasDraftGoal || st.phase ≠ .awaitingUserAnswer then
        c.refuse (.notAllowed "confirm" st.phase)
      else
        c.send now { st with inFlight := { st.inFlight with confirming := true } }
          (.confirm s.boardId s.id) none

/-- The state after an error is cleared: an abandoned session is given up. -/
def cleared (st : State) : State :=
  let st := { st with error := none, reconnecting := false }
  if st.session.any fun s => s.status = .abandoned then
    { st with session := none, selectedOption := none }
  else st

/-- Clears the error, unless a request that could fail is under way. Without a session the action
goes on with a start. -/
def clearError (now : Nat) (c : Conversation) : Conversation × Outcome :=
  let st := c.state
  if st.shutDown then c.refuse .shutDown
  else if st.inFlight.starting || st.inFlight.submitting || st.inFlight.confirming then
    c.ends (.ok ())
  else
    let c := c.change now (cleared st)
    if c.state.session.isNone then (c, .goesOn) else c.ends (.ok ())

/-- The state after a change of the board: all requests are given up. -/
def moved (st : State) (boardId : String) : State :=
  { State.initial boardId with ledger := st.ledger.invalidateAll }

/-- Turns to another board. The action goes on with a start. -/
def switchBoard (now : Nat) (boardId : String) (c : Conversation) : Conversation × Outcome :=
  let st := c.state
  if st.shutDown then c.refuse .shutDown
  else if st.boardId = boardId then c.ends (.ok ())
  else ({ c with timer := c.timer.disarm }.change now (moved st boardId), .goesOn)

/-- The state after a shutdown. -/
def closed (st : State) : State :=
  { st with
    shutDown := true, ledger := st.ledger.invalidateAll, inFlight := .none, refreshes := 0 }

/-- Ends the conversation: no request is sent any more, and no reply matters. -/
def shutdown (now : Nat) (c : Conversation) : Conversation × Outcome :=
  if c.state.shutDown then c.ends (.ok ())
  else
    let c := c.change now (closed c.state)
    { c with timer := c.timer.shutdown }.ends (.ok ())

/-- Attends to a change of the page, if there is one that has not been attended to. -/
def attendPage (now : Nat) (c : Conversation) : Conversation :=
  if c.page.hasNews then { c with page := c.page.see }.syncTimer now else c

end Dialogue.Conversation
