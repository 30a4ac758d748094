import Dialogue.Conversation.Run
import Dialogue.Proofs.Conversation.State
import Dialogue.Proofs.Ledger

/-! # What an event can change

An event does one of a few things to the state and to the requests under way: it makes a request, it
highlights an option, clears an error, turns to another board, ends the conversation, or takes a
reply. `Change` says so once, with the conditions under which each of them happens, and
`step_changes` says that there is nothing else. What a conversation keeps in all its runs is read
off from there. -/

namespace Dialogue

/-- The request that a part of an action has sent. -/
def Outcome.request? : Outcome → Option Request
  | .waiting request => some request
  | _ => none

namespace State

/-- When a call can be made, and what the state becomes before the ledger notes it. -/
inductive Asks (st : State) : Call → State → Prop where
  | start (running : st.shutDown = false) (free : st.inFlight.starting = false)
      (vacant : st.session = none) :
      st.Asks (.start st.boardId)
        { st with inFlight := { st.inFlight with starting := true }, error := none }
  | get {s : Session} (running : st.shutDown = false) (held : st.session = some s) :
      st.Asks (.get s.boardId s.id) (Conversation.refreshing st)
  | answer {s : Session} {answer : Answer} (running : st.shutDown = false)
      (turn : st.phase = .awaitingUserAnswer) (held : st.session = some s)
      (valid : answer.validate = .ok ()) :
      st.Asks (.answer s.boardId s.id answer)
        { st with inFlight := { st.inFlight with submitting := true } }
  | confirm {s : Session} (running : st.shutDown = false)
      (turn : st.phase = .awaitingUserAnswer) (held : st.session = some s)
      (drafted : s.hasDraftGoal = true) :
      st.Asks (.confirm s.boardId s.id)
        { st with inFlight := { st.inFlight with confirming := true } }

/-- How the reply to a start, an answer or a confirmation changes the state. -/
inductive TakesChange (st : State) (r : Request) (reply : Reply) : State → Prop where
  | dropped (late : st.ledger.isCurrent r.ticket = false) : st.TakesChange r reply st
  | failed {error : ServiceError} (current : st.ledger.isCurrent r.ticket = true)
      (refused : r.call.check reply = .error error) :
      st.TakesChange r reply
        ({ st with inFlight := st.inFlight.set false r.call.operation }.surface r.call.operation
          (.ofService r.call.operation error))
  | adopted {s : Session} (current : st.ledger.isCurrent r.ticket = true)
      (passed : r.call.check reply = .ok s) :
      st.TakesChange r reply
        ({ st with inFlight := st.inFlight.set false r.call.operation }.adopt r.call.operation s)

/-- How the reply to a refresh changes the state. -/
inductive TakesRefresh (st : State) (r : Request) : Reply → State → Prop where
  | overtaken {reply : Reply} (late : st.ledger.isCurrent r.ticket = false) :
      st.TakesRefresh r reply (st.finishRefresh r.ticket)
  | missed {error : ServiceError} (current : st.ledger.isCurrent r.ticket = true) :
      st.TakesRefresh r (.error error) { st.finishRefresh r.ticket with reconnecting := true }
  | rejected {s : Session} (current : st.ledger.isCurrent r.ticket = true)
      (refused : st.acceptsRefresh s = false) :
      st.TakesRefresh r (.ok s) (st.finishRefresh r.ticket)
  | refreshed {s : Session} (current : st.ledger.isCurrent r.ticket = true)
      (accepted : st.acceptsRefresh s = true) :
      st.TakesRefresh r (.ok s) ((st.finishRefresh r.ticket).adopt .refresh s)

/-- How the reply to a request changes the state. -/
inductive Takes (st : State) (r : Request) (reply : Reply) (st' : State) : Prop where
  | change (change : r.call.operation ≠ .refresh) (takes : st.TakesChange r reply st')
  | refresh (get : r.call.operation = .refresh) (takes : st.TakesRefresh r reply st')

section Asks

variable {st st' : State} {call : Call}

theorem Asks.running (h : st.Asks call st') : st.shutDown = false := by
  cases h <;> assumption

theorem Asks.ledger (h : st.Asks call st') : st'.ledger = st.ledger := by
  cases h <;> rfl

theorem Asks.session (h : st.Asks call st') : st'.session = st.session := by
  cases h <;> rfl

theorem Asks.boardId (h : st.Asks call st') : st'.boardId = st.boardId := by
  cases h <;> rfl

theorem Asks.selectedOption (h : st.Asks call st') : st'.selectedOption = st.selectedOption := by
  cases h <;> rfl

theorem Asks.shutDown (h : st.Asks call st') : st'.shutDown = st.shutDown := by
  cases h <;> rfl

theorem Asks.inFlight (h : st.Asks call st') :
    st'.inFlight = st.inFlight.set true call.operation := by
  cases h <;> rfl

theorem Asks.refreshes (h : st.Asks call st') :
    st'.refreshes = if call.operation = .refresh then st.refreshes + 1 else st.refreshes := by
  cases h <;> rfl

/-- A start is made without a session. -/
theorem Asks.vacant (h : st.Asks call st') (start : call.operation = .start) :
    st.session = none ∧ call.boardId = st.boardId := by
  cases h with
  | start running free vacant => exact ⟨vacant, rfl⟩
  | get running held => cases start
  | answer running turn held valid => cases start
  | confirm running turn held drafted => cases start

/-- A confirmed conversation is only refreshed. -/
theorem Asks.refresh_of_confirmed (h : st.Asks call st') (confirmed : st.phase = .confirmed) :
    call.operation = .refresh := by
  cases h with
  | start running free vacant =>
    obtain ⟨s, held, -⟩ := phase_eq_confirmed_iff.mp confirmed
    rw [vacant] at held
    cases held
  | get running held => rfl
  | answer running turn held valid =>
    rw [turn] at confirmed
    cases confirmed
  | confirm running turn held drafted =>
    rw [turn] at confirmed
    cases confirmed

/-- Every other call is about the session that is held. -/
theorem Asks.held (h : st.Asks call st') (later : call.operation ≠ .start) :
    ∃ s, st.session = some s ∧ call.boardId = s.boardId ∧ call.sessionId? = some s.id := by
  cases h with
  | start running free vacant => exact absurd rfl later
  | get running held => exact ⟨_, held, rfl, rfl⟩
  | answer running turn held valid => exact ⟨_, held, rfl, rfl⟩
  | confirm running turn held drafted => exact ⟨_, held, rfl, rfl⟩

end Asks

section Takes

variable {st st' : State} {r : Request} {reply : Reply}

theorem Takes.of_change (h : st.Takes r reply st') (change : r.call.operation ≠ .refresh) :
    st.TakesChange r reply st' := by
  cases h with
  | change _ takes => exact takes
  | refresh get takes => exact absurd get change

theorem Takes.of_refresh (h : st.Takes r reply st') (get : r.call.operation = .refresh) :
    st.TakesRefresh r reply st' := by
  cases h with
  | change change takes => exact absurd get change
  | refresh _ takes => exact takes

theorem Takes.failed_of_call {call : Call} (same : r.call = call)
    (change : call.operation ≠ .refresh) (current : st.ledger.isCurrent r.ticket = true)
    {error : ServiceError} (refused : call.check reply = .error error) :
    st.Takes r reply
      ({ st with inFlight := st.inFlight.set false call.operation }.surface call.operation
        (.ofService call.operation error)) := by
  subst same
  exact .change change (.failed current refused)

theorem Takes.adopted_of_call {call : Call} (same : r.call = call)
    (change : call.operation ≠ .refresh) (current : st.ledger.isCurrent r.ticket = true)
    {s : Session} (passed : call.check reply = .ok s) :
    st.Takes r reply
      ({ st with inFlight := st.inFlight.set false call.operation }.adopt call.operation s) := by
  subst same
  exact .change change (.adopted current passed)

/-- A current reply to a change ends its own request and touches no count. -/
theorem TakesChange.ends (h : st.TakesChange r reply st')
    (current : st.ledger.isCurrent r.ticket = true) :
    st'.inFlight = st.inFlight.set false r.call.operation ∧ st'.refreshes = st.refreshes := by
  cases h with
  | dropped late =>
    rw [late] at current
    cases current
  | failed current' refused => exact ⟨rfl, rfl⟩
  | adopted current' passed => exact ⟨adopt_inFlight _ _ _, adopt_refreshes _ _ _⟩

/-- A late reply to a change changes nothing. -/
theorem TakesChange.eq_of_late (h : st.TakesChange r reply st')
    (late : st.ledger.isCurrent r.ticket = false) : st' = st := by
  cases h with
  | dropped late' => rfl
  | failed current refused =>
    rw [late] at current
    cases current
  | adopted current passed =>
    rw [late] at current
    cases current

/-- The reply to a change leaves the session alone, or brings one that the call can use. -/
theorem TakesChange.session (h : st.TakesChange r reply st') :
    st'.session = st.session ∨
      ∃ s, st.ledger.isCurrent r.ticket = true ∧ r.call.check reply = .ok s ∧
        st'.session = some s := by
  cases h with
  | dropped late => exact .inl rfl
  | failed current refused => exact .inl rfl
  | adopted current passed => exact .inr ⟨_, current, passed, adopt_session _ _ _⟩

/-- A usable session of a current reply is taken over. -/
theorem TakesChange.session_of_check (h : st.TakesChange r reply st')
    (current : st.ledger.isCurrent r.ticket = true) {s : Session}
    (passed : r.call.check reply = .ok s) : st'.session = some s := by
  cases h with
  | dropped late =>
    rw [late] at current
    cases current
  | failed current' refused =>
    rw [passed] at refused
    cases refused
  | adopted current' passed' => rw [adopt_session, Except.ok.inj (passed.symm.trans passed')]

/-- The reply to a refresh counts it as answered, and otherwise leaves the flags alone. -/
theorem TakesRefresh.finishes (h : st.TakesRefresh r reply st') :
    st'.inFlight = (st.finishRefresh r.ticket).inFlight ∧
      st'.refreshes = (st.finishRefresh r.ticket).refreshes := by
  cases h with
  | overtaken late => exact ⟨rfl, rfl⟩
  | missed current => exact ⟨rfl, rfl⟩
  | rejected current refused => exact ⟨rfl, rfl⟩
  | refreshed current accepted => exact ⟨adopt_inFlight _ _ _, adopt_refreshes _ _ _⟩

/-- The reply to a refresh leaves the session alone, or brings an accepted one. -/
theorem TakesRefresh.session (h : st.TakesRefresh r reply st') :
    st'.session = st.session ∨
      ∃ s, st.ledger.isCurrent r.ticket = true ∧ reply = .ok s ∧ st.acceptsRefresh s = true ∧
        st'.session = some s := by
  cases h with
  | overtaken late => exact .inl (finishRefresh_session _ _)
  | missed current => exact .inl (finishRefresh_session _ _)
  | rejected current refused => exact .inl (finishRefresh_session _ _)
  | refreshed current accepted => exact .inr ⟨_, current, rfl, accepted, adopt_session _ _ _⟩

theorem Takes.ledger (h : st.Takes r reply st') : st'.ledger = st.ledger := by
  cases h with
  | change _ takes =>
    cases takes with
    | dropped late => rfl
    | failed current refused => rfl
    | adopted current passed => exact adopt_ledger _ _ _
  | refresh _ takes =>
    cases takes with
    | overtaken late => exact finishRefresh_ledger _ _
    | missed current => exact finishRefresh_ledger _ _
    | rejected current refused => exact finishRefresh_ledger _ _
    | refreshed current accepted =>
      rw [adopt_ledger]
      exact finishRefresh_ledger _ _

theorem Takes.boardId (h : st.Takes r reply st') : st'.boardId = st.boardId := by
  cases h with
  | change _ takes =>
    cases takes with
    | dropped late => rfl
    | failed current refused => rfl
    | adopted current passed => exact adopt_boardId _ _ _
  | refresh _ takes =>
    cases takes with
    | overtaken late => exact finishRefresh_boardId _ _
    | missed current => exact finishRefresh_boardId _ _
    | rejected current refused => exact finishRefresh_boardId _ _
    | refreshed current accepted =>
      rw [adopt_boardId]
      exact finishRefresh_boardId _ _

theorem Takes.shutDown (h : st.Takes r reply st') : st'.shutDown = st.shutDown := by
  cases h with
  | change _ takes =>
    cases takes with
    | dropped late => rfl
    | failed current refused => rfl
    | adopted current passed => exact adopt_shutDown _ _ _
  | refresh _ takes =>
    cases takes with
    | overtaken late => exact finishRefresh_shutDown _ _
    | missed current => exact finishRefresh_shutDown _ _
    | rejected current refused => exact finishRefresh_shutDown _ _
    | refreshed current accepted =>
      rw [adopt_shutDown]
      exact finishRefresh_shutDown _ _

/-- The reply to a request of an earlier epoch changes nothing. -/
theorem Takes.eq_of_old (h : st.Takes r reply st')
    (old : st.ledger.sameEpoch r.ticket = false) : st' = st := by
  have late : st.ledger.isCurrent r.ticket = false := Ledger.isCurrent_of_old old
  cases h with
  | change _ takes => exact takes.eq_of_late late
  | refresh _ takes =>
    cases takes with
    | overtaken _ => exact finishRefresh_of_old old
    | missed current =>
      rw [late] at current
      cases current
    | rejected current refused =>
      rw [late] at current
      cases current
    | refreshed current accepted =>
      rw [late] at current
      cases current

/-- A reply sets no flag but that of the refreshes. -/
theorem Takes.free (h : st.Takes r reply st') {op : Operation} (change : op ≠ .refresh)
    (free : st.inFlight.get op = false) : st'.inFlight.get op = false := by
  cases h with
  | change _ takes =>
    cases current : st.ledger.isCurrent r.ticket with
    | false =>
      rw [takes.eq_of_late current]
      exact free
    | true => rw [(takes.ends current).1, InFlight.get_set, free, ite_self]
  | refresh _ takes => rw [takes.finishes.1, finishRefresh_get _ _ change, free]

end Takes

end State

namespace Conversation

/-- Whether an event is one that makes calls of an operation. -/
def asking : Event → Operation → Bool
  | .start, .start => true
  | .refresh, .refresh => true
  | .poll _, .refresh => true
  | .submit _, .answer => true
  | .submitSelection, .answer => true
  | .submitText _, .answer => true
  | .confirm, .confirm => true
  | _, _ => false

/-- An event that meets nothing it could act on. Of the events that are not listed nothing is
said. -/
def Idle (st : State) (pending : List Request) : Event → Prop
  | .reply seq _ => ∀ r ∈ pending, r.ticket.seq ≠ seq
  | .switchBoard boardId => st.shutDown = true ∨ st.boardId = boardId
  | .shutdown => st.shutDown = true
  | .clearError =>
    st.shutDown = true ∨
      (st.inFlight.starting || st.inFlight.submitting || st.inFlight.confirming) = true
  | _ => True

/-- What an event can make of the state and of the requests under way, and the request that it
sends. -/
inductive Change (st : State) (pending : List Request) :
    Event → State → List Request → Option Request → Prop where
  | nothing {event : Event} (idle : Idle st pending event) : Change st pending event st pending none
  | asked {event : Event} {st' : State} {call : Call} {poll : Option Nat}
      (kind : asking event call.operation = true) (asks : st.Asks call st') :
      Change st pending event { st' with ledger := st'.ledger.issue call.operation }
        (pending ++ [⟨st'.ledger.nextTicket call.operation, call, poll⟩])
        (some ⟨st'.ledger.nextTicket call.operation, call, poll⟩)
  | selected {label : String} (running : st.shutDown = false)
      (turn : st.phase = .awaitingUserAnswer) (offered : st.offers label = true) :
      Change st pending (.select label) { st with selectedOption := some label } pending none
  | cleared (running : st.shutDown = false)
      (free : (st.inFlight.starting || st.inFlight.submitting || st.inFlight.confirming) = false) :
      Change st pending .clearError (cleared st) pending none
  | moved {boardId : String} (running : st.shutDown = false) (other : st.boardId ≠ boardId) :
      Change st pending (.switchBoard boardId) (moved st boardId) pending none
  | closed (running : st.shutDown = false) : Change st pending .shutdown (closed st) pending none
  | replied {r : Request} {reply : Reply} {st' : State} (sent : r ∈ pending)
      (takes : st.Takes r reply st') :
      Change st pending (.reply r.ticket.seq reply) st' (pending.erase r) none

theorem cleared_boardId (st : State) : (cleared st).boardId = st.boardId := by
  unfold cleared
  dsimp only
  split <;> rfl

theorem cleared_shutDown (st : State) : (cleared st).shutDown = st.shutDown := by
  unfold cleared
  dsimp only
  split <;> rfl

/-- Clearing an error keeps the session or gives it up. -/
theorem cleared_session (st : State) :
    (cleared st).session = st.session ∨ (cleared st).session = none := by
  unfold cleared
  dsimp only
  split
  · exact .inr rfl
  · exact .inl rfl

/-- An abandoned session is given up, and the highlighted option with it. -/
theorem cleared_of_abandoned {st : State} {s : Session} (held : st.session = some s)
    (abandoned : s.status = .abandoned) :
    cleared st =
      { st with error := none, reconnecting := false, session := none, selectedOption := none } := by
  simp [cleared, held, abandoned]

/-- Any other session is kept. -/
theorem cleared_of_kept {st : State} (kept : ∀ s, st.session = some s → s.status ≠ .abandoned) :
    cleared st = { st with error := none, reconnecting := false } := by
  cases held : st.session with
  | none => simp [cleared, held]
  | some s => simp [cleared, held, kept s held]

theorem cleared_ledger (st : State) : (cleared st).ledger = st.ledger := by
  unfold cleared
  dsimp only
  split <;> rfl

theorem cleared_inFlight (st : State) : (cleared st).inFlight = st.inFlight := by
  unfold cleared
  dsimp only
  split <;> rfl

theorem cleared_refreshes (st : State) : (cleared st).refreshes = st.refreshes := by
  unfold cleared
  dsimp only
  split <;> rfl

/-- What an event has made of a conversation is one of the changes. -/
def Changes (c : Conversation) (event : Event) (done : Conversation × Outcome) : Prop :=
  Change c.state c.pending event done.1.state done.1.pending done.2.request?

/-- What a reply has made of a conversation, from which its request has been taken. -/
def Replies (c : Conversation) (r : Request) (reply : Reply) (done : Conversation × Outcome) :
    Prop :=
  c.state.Takes r reply done.1.state ∧ done.1.pending = c.pending ∧ done.2.request? = none

section Parts

variable (now : Nat) (c : Conversation)

theorem changes_ends (event : Event) (idle : Idle c.state c.pending event)
    (result : Except ActionError Unit) : c.Changes event (c.ends result) :=
  .nothing idle

theorem changes_send (event : Event) {st : State} {call : Call} (asks : c.state.Asks call st)
    (kind : asking event call.operation = true) (poll : Option Nat) :
    c.Changes event (c.send now st call poll) :=
  .asked kind asks

theorem start_changes : c.Changes .start (c.start now) := by
  unfold start
  dsimp only
  split
  · exact changes_ends c .start trivial _
  · rename_i running
    split
    · exact changes_ends c .start trivial _
    · rename_i open_
      rw [Bool.not_eq_true] at running open_
      rw [Bool.or_eq_false_iff, Option.isSome_eq_false_iff, Option.isNone_iff_eq_none] at open_
      exact changes_send now c .start (.start running open_.1 open_.2) rfl none

theorem refresh_changes : c.Changes .refresh (c.refresh now) := by
  unfold refresh
  dsimp only
  split
  · exact changes_ends c .refresh trivial _
  · rename_i running
    rw [Bool.not_eq_true] at running
    split
    · exact changes_ends c .refresh trivial _
    · rename_i s held
      exact changes_send now c .refresh (.get running held) rfl none

theorem poll_changes (arming : Nat) : c.Changes (.poll arming) (c.poll now arming) := by
  unfold poll
  dsimp only
  split
  · exact .nothing trivial
  · rename_i wanted
    rw [Bool.or_eq_true, not_or, Bool.not_eq_true, Bool.not_eq_true, Bool.not_eq_false'] at wanted
    have running : c.state.shutDown = false := by
      have wants := wanted.2
      rw [wantsTimer, Bool.and_eq_true, Bool.and_eq_true, Bool.not_eq_true'] at wants
      exact wants.1.1
    split
    · exact .nothing trivial
    · rename_i s held
      exact changes_send now c (.poll arming) (.get running held) rfl (some arming)

theorem submit_changes (event : Event) (kind : asking event .answer = true)
    (idle : Idle c.state c.pending event) (answer : Answer) :
    c.Changes event (c.submit now answer) := by
  unfold submit
  dsimp only
  split
  · exact changes_ends c event idle _
  · rename_i running
    rw [Bool.not_eq_true] at running
    split
    · exact changes_ends c event idle _
    · split
      · exact changes_ends c event idle _
      · rename_i turn
        split
        · exact changes_ends c event idle _
        · exact changes_ends c event idle _
        · rename_i s valid held
          refine changes_send now c event (.answer running ?_ held valid) kind none
          simpa [Phase.acceptsAnswer] using turn

theorem select_changes (label : String) : c.Changes (.select label) (c.select now label) := by
  unfold select
  dsimp only
  split
  · exact changes_ends c (.select label) trivial _
  · rename_i running
    rw [Bool.not_eq_true] at running
    split
    · exact changes_ends c (.select label) trivial _
    · rename_i turn
      split
      · exact changes_ends c (.select label) trivial _
      · rename_i offered
        refine .selected running ?_ ?_
        · simpa [Phase.acceptsAnswer] using turn
        · simpa using offered

theorem confirm_changes : c.Changes .confirm (c.confirm now) := by
  unfold confirm
  dsimp only
  split
  · exact changes_ends c .confirm trivial _
  · rename_i running
    rw [Bool.not_eq_true] at running
    split
    · exact changes_ends c .confirm trivial _
    · split
      · exact changes_ends c .confirm trivial _
      · split
        · exact changes_ends c .confirm trivial _
        · rename_i s held
          split
          · exact changes_ends c .confirm trivial _
          · rename_i ready
            have ready : s.hasDraftGoal = true ∧ c.state.phase = .awaitingUserAnswer := by
              simpa using ready
            exact changes_send now c .confirm (.confirm running ready.2 held ready.1) rfl none

theorem clearError_changes : c.Changes .clearError (c.clearError now) := by
  unfold clearError
  dsimp only
  split
  · rename_i ended
    exact changes_ends c .clearError (.inl ended) _
  · rename_i running
    rw [Bool.not_eq_true] at running
    split
    · rename_i busy
      exact changes_ends c .clearError (.inr busy) _
    · rename_i free
      rw [Bool.not_eq_true] at free
      split
      · exact .cleared running free
      · exact .cleared running free

theorem switchBoard_changes (boardId : String) :
    c.Changes (.switchBoard boardId) (c.switchBoard now boardId) := by
  unfold switchBoard
  dsimp only
  split
  · rename_i ended
    exact changes_ends c (.switchBoard boardId) (.inl ended) _
  · rename_i running
    rw [Bool.not_eq_true] at running
    split
    · rename_i same
      exact changes_ends c (.switchBoard boardId) (.inr same) _
    · rename_i other
      exact .moved running other

theorem shutdown_changes : c.Changes .shutdown (c.shutdown now) := by
  unfold shutdown
  split
  · rename_i ended
    exact changes_ends c .shutdown ended _
  · rename_i running
    rw [Bool.not_eq_true] at running
    exact .closed running

/-- A late reply to anything but a refresh. -/
theorem replies_late {r : Request} {reply : Reply} (change : r.call.operation ≠ .refresh)
    (late : (!c.state.ledger.isCurrent r.ticket) = true) :
    c.Replies r reply (c, .ended (.ok ())) := by
  rw [Bool.not_eq_true'] at late
  exact ⟨.change change (.dropped late), rfl, rfl⟩

theorem tellHost_state : c.tellHost.state = c.state := by
  unfold tellHost
  split <;> rfl

theorem tellHost_pending : c.tellHost.pending = c.pending := by
  unfold tellHost
  split <;> rfl

theorem replyStart_changes {r : Request} {b : String} (call : r.call = .start b) (reply : Reply) :
    c.Replies r reply (c.replyStart now r.ticket b reply) := by
  unfold replyStart
  split
  · rename_i late
    exact replies_late c (by rw [call]; exact Operation.noConfusion) late
  · rename_i current
    rw [Bool.not_eq_true, Bool.not_eq_false'] at current
    dsimp only
    split
    · rename_i s passed
      exact ⟨.adopted_of_call call Operation.noConfusion current passed, rfl, rfl⟩
    · rename_i error refused
      exact ⟨.failed_of_call call Operation.noConfusion current refused, rfl, rfl⟩

theorem replyAnswer_changes {r : Request} {b i : String} {answer : Answer}
    (call : r.call = .answer b i answer) (reply : Reply) :
    c.Replies r reply (c.replyAnswer now r.ticket b i reply) := by
  unfold replyAnswer
  split
  · rename_i late
    exact replies_late c (by rw [call]; exact Operation.noConfusion) late
  · rename_i current
    rw [Bool.not_eq_true, Bool.not_eq_false'] at current
    dsimp only
    split
    · rename_i s passed
      exact ⟨.adopted_of_call call Operation.noConfusion current passed, rfl, rfl⟩
    · rename_i error refused
      exact ⟨.failed_of_call call Operation.noConfusion current refused, rfl, rfl⟩

theorem replyConfirm_changes {r : Request} {b i : String} (call : r.call = .confirm b i)
    (reply : Reply) : c.Replies r reply (c.replyConfirm now r.ticket b i reply) := by
  unfold replyConfirm
  split
  · rename_i late
    exact replies_late c (by rw [call]; exact Operation.noConfusion) late
  · rename_i current
    rw [Bool.not_eq_true, Bool.not_eq_false'] at current
    dsimp only
    split
    · rename_i s passed
      refine ⟨?_, tellHost_pending _, rfl⟩
      rw [tellHost_state]
      exact .adopted_of_call call Operation.noConfusion current passed
    · rename_i error refused
      exact ⟨.failed_of_call call Operation.noConfusion current refused, rfl, rfl⟩

theorem replyRefresh_changes {r : Request} (get : r.call.operation = .refresh) (reply : Reply) :
    c.Replies r reply (c.replyRefresh now r.ticket reply) := by
  unfold replyRefresh
  dsimp only
  split
  · rename_i late
    exact ⟨.refresh get (.overtaken (by simpa using late)), rfl, rfl⟩
  · rename_i current
    have current : c.state.ledger.isCurrent r.ticket = true := by simpa using current
    split
    · rename_i s
      refine ⟨?_, rfl, rfl⟩
      rw [State.finishRefresh_acceptsRefresh]
      cases accepts : c.state.acceptsRefresh s with
      | true => exact .refresh get (.refreshed current accepts)
      | false => exact .refresh get (.rejected current accepts)
    · exact ⟨.refresh get (.missed current), rfl, rfl⟩

theorem replyTo_changes (r : Request) (reply : Reply) :
    c.Replies r reply (c.replyTo now r reply) := by
  unfold replyTo
  split
  · rename_i b call
    exact replyStart_changes now c call reply
  · rename_i b i call
    exact replyRefresh_changes now c (by rw [call]; rfl) reply
  · rename_i b i answer call
    exact replyAnswer_changes now c call reply
  · rename_i b i call
    exact replyConfirm_changes now c call reply

theorem finishPoll_state (r : Request) : (c.finishPoll r).state = c.state := by
  unfold finishPoll
  split <;> rfl

theorem finishPoll_pending (r : Request) : (c.finishPoll r).pending = c.pending := by
  unfold finishPoll
  split <;> rfl

theorem reply_changes (seq : Nat) (reply : Reply) :
    c.Changes (.reply seq reply) (c.reply now seq reply) := by
  unfold Conversation.reply
  split
  · rename_i missing
    refine .nothing fun r sent same => ?_
    exact List.find?_eq_none.mp missing r sent (decide_eq_true same)
  · rename_i r found
    have sent : r ∈ c.pending := List.mem_of_find?_eq_some found
    have numbered : r.ticket.seq = seq := by simpa using List.find?_some found
    obtain ⟨takes, pending, silent⟩ :=
      replyTo_changes now { c with pending := c.pending.erase r } r reply
    subst numbered
    rw [Changes, finishPoll_state, finishPoll_pending, pending]
    dsimp only
    rw [silent]
    exact .replied sent takes

end Parts

/-- Every event makes one of the changes. -/
theorem step_changes (now : Nat) (c : Conversation) (event : Event) :
    Change c.state c.pending event (c.step now event).1.state (c.step now event).1.pending
      (c.step now event).2.request? := by
  show c.Changes event (c.step now event)
  cases event with
  | start => exact start_changes now c
  | refresh => exact refresh_changes now c
  | submit answer => exact submit_changes now c (.submit answer) rfl trivial answer
  | select label => exact select_changes now c label
  | submitSelection =>
    show c.Changes .submitSelection (c.submitSelection now)
    unfold submitSelection
    split
    · exact submit_changes now c .submitSelection rfl trivial _
    · exact changes_ends c .submitSelection trivial _
  | submitText text => exact submit_changes now c (.submitText text) rfl trivial _
  | confirm => exact confirm_changes now c
  | clearError => exact clearError_changes now c
  | switchBoard boardId => exact switchBoard_changes now c boardId
  | shutdown => exact shutdown_changes now c
  | reply seq reply => exact reply_changes now c seq reply
  | tick =>
    show c.Changes .tick (c.tick now)
    unfold tick
    split
    · exact .nothing trivial
    · exact .nothing trivial
  | poll arming => exact poll_changes now c arming
  | setPage active => exact .nothing trivial
  | attendPage =>
    show c.Changes .attendPage (c.attendPage now, _)
    unfold attendPage
    split
    · exact .nothing trivial
    · exact .nothing trivial

end Conversation

end Dialogue
