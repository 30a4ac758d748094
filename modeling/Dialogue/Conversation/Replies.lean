import Dialogue.Conversation.Basic

/-! # Replies

What happens when a request is answered. A reply whose ticket is no longer current changes nothing
that can be seen, except that a refresh is no longer under way. The session in a reply must belong
to the board, and but for a start to the session, that was asked about. -/

namespace Dialogue

/-- The session belongs to the board. -/
def Session.checkBoard (boardId : String) (s : Session) : Except ServiceError Session :=
  if s.boardId = boardId then .ok s
  else .error (.malformed ("session belongs to board " ++ s.boardId ++ ", expected " ++ boardId))

/-- The session belongs to the board and is the one that was asked about. -/
def Session.check (boardId sessionId : String) (s : Session) : Except ServiceError Session := do
  let s ← s.checkBoard boardId
  if s.id = sessionId then .ok s
  else .error (.malformed ("expected session " ++ sessionId ++ ", got " ++ s.id))

/-- The session is confirmed. -/
def Session.checkConfirmed (s : Session) : Except ServiceError Session :=
  if s.status = .confirmed then .ok s
  else .error (.malformed ("confirm returned a session with status " ++ s.status.label))

/-- What comes back from a call. -/
abbrev Reply := Except ServiceError Session

namespace Conversation

/-- An operation fails: the error is shown. -/
def fail (now : Nat) (st : State) (operation : Operation) (error : ServiceError)
    (c : Conversation) : Conversation × Outcome :=
  let error := ActionError.ofService operation error
  (c.change now (st.surface operation error), .ended (.error error))

/-- A start is answered. -/
def replyStart (now : Nat) (ticket : Ticket) (boardId : String) (reply : Reply)
    (c : Conversation) : Conversation × Outcome :=
  if !c.state.ledger.isCurrent ticket then (c, .ended (.ok ()))
  else
    let st := { c.state with inFlight := { c.state.inFlight with starting := false } }
    match reply.bind (Session.checkBoard boardId) with
    | .ok s => (c.change now { st.replaceSession s with reconnecting := false }, .ended (.ok ()))
    | .error e => c.fail now st .start e

/-- A refresh is answered. A failure is only told to who asked for it. -/
def replyRefresh (now : Nat) (ticket : Ticket) (reply : Reply) (c : Conversation) :
    Conversation × Outcome :=
  let st := c.state.finishRefresh ticket
  if !st.ledger.isCurrent ticket then (c.change now st, .ended (.ok ()))
  else match reply with
    | .ok s =>
      let st := if st.acceptsRefresh s then { st.replaceSession s with reconnecting := false }
        else st
      (c.change now st, .ended (.ok ()))
    | .error e =>
      (c.change now { st with reconnecting := true },
        .ended (.error (.ofService .refresh e)))

/-- An answer is answered. -/
def replyAnswer (now : Nat) (ticket : Ticket) (boardId sessionId : String) (reply : Reply)
    (c : Conversation) : Conversation × Outcome :=
  if !c.state.ledger.isCurrent ticket then (c, .ended (.ok ()))
  else
    let st := { c.state with inFlight := { c.state.inFlight with submitting := false } }
    match reply.bind (Session.check boardId sessionId) with
    | .ok s =>
      (c.change now { st.replaceSession s with selectedOption := none, reconnecting := false },
        .ended (.ok ()))
    | .error e => c.fail now st .answer e

/-- A confirmation is answered. When it succeeds, the host is told. -/
def replyConfirm (now : Nat) (ticket : Ticket) (boardId sessionId : String) (reply : Reply)
    (c : Conversation) : Conversation × Outcome :=
  if !c.state.ledger.isCurrent ticket then (c, .ended (.ok ()))
  else
    let st := { c.state with inFlight := { c.state.inFlight with confirming := false } }
    match (reply.bind (Session.check boardId sessionId)).bind Session.checkConfirmed with
    | .ok s => ((c.change now (st.replaceSession s)).tellHost, .ended (.ok ()))
    | .error e => c.fail now st .confirm e

/-- The reply to a request that is no longer pending. -/
def replyTo (now : Nat) (request : Request) (reply : Reply) (c : Conversation) :
    Conversation × Outcome :=
  match request.call with
  | .start b => c.replyStart now request.ticket b reply
  | .get _ _ => c.replyRefresh now request.ticket reply
  | .answer b s _ => c.replyAnswer now request.ticket b s reply
  | .confirm b s => c.replyConfirm now request.ticket b s reply

/-- The task of the tick that sent a request is over. -/
def finishPoll (request : Request) (c : Conversation) : Conversation :=
  match request.poll with
  | some arming => { c with timer := c.timer.finish arming }
  | none => c

/-- The request of number `seq` is answered. -/
def reply (now seq : Nat) (reply : Reply) (c : Conversation) : Conversation × Outcome :=
  match c.pending.find? (·.ticket.seq = seq) with
  | none => (c, .ended (.ok ()))
  | some request =>
    let (c, outcome) :=
      { c with pending := c.pending.erase request }.replyTo now request reply
    (c.finishPoll request, outcome)

end Conversation

end Dialogue
