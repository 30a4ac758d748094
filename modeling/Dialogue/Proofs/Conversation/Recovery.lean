import Dialogue.Proofs.Conversation.Epochs
import Dialogue.Proofs.Conversation.Refresh

/-! # Failures, and how a retry gets over them

An error is shown only while no request that could fail is under way, so that it interrupts the
conversation: the phase is that of a failure unless the conversation is confirmed. Apart from an
error only an abandoned session makes a conversation fail.

A retry gets over either. It takes the error away and, when no session is left to go on with, starts
another one. When an answer or a confirmation has failed, the retry brings the conversation back to
where it was before. -/

namespace Dialogue

namespace State

/-- An error is shown only while nothing but refreshes is under way. -/
def Calm (st : State) : Prop := st.error ≠ none → st.inFlight.Quiet

section Calm

variable {st st' : State} {call : Call}

/-- On the user's turn, a call only sets its flag. -/
theorem Asks.of_turn (asks : st.Asks call st')
    (kind : call.operation = .answer ∨ call.operation = .confirm) :
    st.phase = .awaitingUserAnswer ∧
      st' = { st with inFlight := st.inFlight.set true call.operation } := by
  cases asks with
  | start running free vacant => simp [Call.operation] at kind
  | get running held => simp [Call.operation] at kind
  | answer running turn held valid => exact ⟨turn, rfl⟩
  | confirm running turn held drafted => exact ⟨turn, rfl⟩

/-- A call is made while no error is shown, or takes the error away; a refresh does not matter. -/
theorem Asks.calm (asks : st.Asks call st') (h : st.Calm) : st'.Calm := by
  intro shown op change
  cases asks with
  | start running free vacant => exact absurd rfl shown
  | get running held =>
    have same : (st.inFlight.set true .refresh).get op = st.inFlight.get op := by
      rw [InFlight.get_set, if_neg change]
    exact same.trans (h shown op change)
  | answer running turn held valid => exact absurd (rests_of_awaitingUserAnswer turn).1 shown
  | confirm running turn held drafted => exact absurd (rests_of_awaitingUserAnswer turn).1 shown

theorem calm_initial (boardId : String) : (initial boardId).Calm := fun shown => absurd rfl shown

/-- The end of a request that shows no error keeps the calm. -/
theorem Takes.calm_of_error {r : Request} {reply : Reply} (takes : st.Takes r reply st')
    (h : st.Calm) (error : st'.error = st.error) : st'.Calm := by
  intro shown op change
  rw [error] at shown
  exact takes.free change (h shown op change)

end Calm

end State

namespace Conversation

variable {st st' : State} {pending pending' : List Request}

/-- The request that fails was the only one that could. -/
theorem calm_of_takes (h : st.Calm) (tracked : Tracked st pending) (balanced : Balanced st pending)
    {r : Request} {reply : Reply} (sent : r ∈ pending) (takes : st.Takes r reply st') :
    st'.Calm := by
  cases takes with
  | refresh get refresh => exact (State.Takes.refresh get refresh).calm_of_error h refresh.error
  | change change changes =>
    have ends := State.Takes.change change changes
    cases changes with
    | dropped late => exact h
    | adopted current passed => exact ends.calm_of_error h (State.adopt_error _ _ _)
    | failed current refused =>
      intro _ op other
      have busy := balanced.busy_of_pending tracked sent (Ledger.sameEpoch_of_isCurrent current) rfl
        change
      show (st.inFlight.set false r.call.operation).get op = false
      rw [InFlight.get_set]
      split
      · rfl
      · rename_i different
        exact balanced.free_of_busy change busy other different

theorem Change.calm {event : Event} {request : Option Request}
    (change : Change st pending event st' pending' request) (h : st.Calm)
    (tracked : Tracked st pending) (balanced : Balanced st pending) : st'.Calm := by
  cases change with
  | nothing idle => exact h
  | asked kind asks => exact asks.calm h
  | selected running turn offered => exact h
  | cleared running free =>
    intro _
    rw [cleared_inFlight]
    exact InFlight.quiet_of_free free
  | moved running other => exact fun shown => absurd rfl shown
  | closed running => exact fun _ op _ => InFlight.get_none op
  | replied sent takes => exact calm_of_takes h tracked balanced sent takes

/-- There is no session to go on with: none is held, or the one that is has been abandoned. -/
def Lost (st : State) : Prop := ∀ s, st.session = some s → s.status = .abandoned

theorem lost_or_live (st : State) :
    Lost st ∨ ∃ s, st.session = some s ∧ s.status ≠ .abandoned := by
  cases held : st.session with
  | none => simp [Lost, held]
  | some s =>
    by_cases abandoned : s.status = .abandoned
    · simp [Lost, held, abandoned]
    · exact .inr ⟨s, rfl, abandoned⟩

theorem cleared_reconnecting (st : State) : (cleared st).reconnecting = false := by
  unfold cleared
  dsimp only
  split <;> rfl

/-- A lost session is given up, and the highlighted option with it. -/
theorem cleared_of_lost (lost : Lost st) :
    (cleared st).session = none ∧ (st.session ≠ none → (cleared st).selectedOption = none) := by
  cases held : st.session with
  | none => simp [cleared, held]
  | some s =>
    rw [cleared_of_abandoned held (lost s held)]
    exact ⟨rfl, fun _ => rfl⟩

section Retry

variable {c : Conversation} (now : Nat)

/-- Only a request under way keeps the error from being cleared. -/
theorem clearError_of_quiet (running : c.state.shutDown = false) (quiet : c.state.inFlight.Quiet) :
    c.clearError now =
      (c.change now (cleared c.state),
        if (cleared c.state).session.isNone then .goesOn else .ended (.ok ())) := by
  obtain ⟨starting, submitting, confirming⟩ := InFlight.quiet_iff.mp quiet
  have kept : (c.change now (cleared c.state)).state = cleared c.state := rfl
  unfold clearError
  simp only [running, starting, submitting, confirming, Bool.or_self, Bool.false_eq_true, if_false,
    kept]
  split
  · rfl
  · rfl

/-- The state when a start is under way. -/
def starting (st : State) : State :=
  { st with inFlight := { st.inFlight with starting := true }, error := none }

theorem start_of_vacant (running : c.state.shutDown = false)
    (free : c.state.inFlight.starting = false) (vacant : c.state.session = none) :
    c.start now = c.send now (starting c.state) (.start c.state.boardId) none := by
  simp [start, starting, running, free, vacant]

/-- Without a session to go on with, a retry starts another one. -/
theorem retry_of_lost (running : c.state.shutDown = false) (quiet : c.state.inFlight.Quiet)
    (lost : Lost c.state) :
    c.act now .retry =
      (c.change now (cleared c.state)).send now (starting (cleared c.state))
        (.start c.state.boardId) none := by
  have vacant := (cleared_of_lost lost).1
  have clears : c.step now (firstEvent .retry) = (c.change now (cleared c.state), .goesOn) := by
    refine (clearError_of_quiet now running quiet).trans ?_
    rw [vacant]
    rfl
  have running' : (cleared c.state).shutDown = false := by rw [cleared_shutDown, running]
  have free : (cleared c.state).inFlight.starting = false := by
    rw [cleared_inFlight]
    exact quiet .start Operation.noConfusion
  unfold act
  rw [clears]
  dsimp only
  rw [start_of_vacant (c := c.change now (cleared c.state)) now running' free vacant,
    ← cleared_boardId c.state]
  rfl

/-- With a session to go on with, a retry only takes the error away. -/
theorem retry_of_kept (running : c.state.shutDown = false) (quiet : c.state.inFlight.Quiet)
    {s : Session} (held : c.state.session = some s) (live : s.status ≠ .abandoned) :
    c.act now .retry =
      (c.change now { c.state with error := none, reconnecting := false }).ends (.ok ()) := by
  have kept : ∀ t, c.state.session = some t → t.status ≠ .abandoned := by
    rintro t held'
    rwa [Option.some.inj (held'.symm.trans held)]
  have clears : c.step now (firstEvent .retry) =
      (c.change now { c.state with error := none, reconnecting := false }).ends (.ok ()) := by
    refine (clearError_of_quiet now running quiet).trans ?_
    rw [cleared_of_kept kept, if_neg (by simp [held])]
    rfl
  unfold act
  rw [clears]
  rfl

end Retry

/-- How an action resumes a conversation that has failed. -/
structure Resumes (c : Conversation) (done : Conversation × Outcome) : Prop where
  error : done.1.state.error = none
  reconnecting : done.1.state.reconnecting = false
  phase : done.1.state.phase ≠ .failed
  restarts : (∃ r, done.2 = .waiting r) ↔ Lost c.state
  restarted : ∀ r, done.2 = .waiting r →
    r.call = .start c.state.boardId ∧ done.1.pending = c.pending ++ [r] ∧
      done.1.state.session = none ∧
      (c.state.session ≠ none → done.1.state.selectedOption = none)
  kept : ¬ Lost c.state →
    done.2 = .ended (.ok ()) ∧ done.1.pending = c.pending ∧
      done.1.state = { c.state with error := none, reconnecting := false }

section Resumes

variable {c : Conversation}

theorem resumes_of_lost (now : Nat) (running : c.state.shutDown = false)
    (quiet : c.state.inFlight.Quiet) (lost : Lost c.state) : c.Resumes (c.act now .retry) := by
  obtain ⟨vacant, unselected⟩ := cleared_of_lost lost
  rw [retry_of_lost now running quiet lost]
  refine ⟨rfl, cleared_reconnecting _, fun failed => ?_, ?_, ?_, fun held => absurd lost held⟩
  · -- a start is under way
    have free := State.quiet_of_failed failed .start Operation.noConfusion
    cases free
  · exact ⟨fun _ => lost, fun _ => ⟨_, rfl⟩⟩
  · rintro r ⟨⟩
    exact ⟨rfl, rfl, vacant, unselected⟩

theorem resumes_of_kept (now : Nat) (running : c.state.shutDown = false)
    (quiet : c.state.inFlight.Quiet) {s : Session} (held : c.state.session = some s)
    (live : s.status ≠ .abandoned) : c.Resumes (c.act now .retry) := by
  have found : ¬ Lost c.state := fun lost => live (lost s held)
  rw [retry_of_kept now running quiet held live]
  refine ⟨rfl, rfl, fun failed => ?_, ?_, fun r sends => ?_, fun _ => ⟨rfl, rfl, rfl⟩⟩
  · rcases State.of_failed failed with shown | ⟨s', held', abandoned⟩
    · exact shown rfl
    · obtain rfl : s = s' := Option.some.inj (held.symm.trans held')
      exact live abandoned
  · refine ⟨?_, fun lost => absurd lost found⟩
    rintro ⟨r, ⟨⟩⟩
  · cases sends

end Resumes

/-- An action has brought a conversation back to the user's turn that it was before a request: but
for the request itself, only the mark of a failed refresh is gone. -/
structure Restores (c : Conversation) (op : Operation) (done : Conversation × Outcome) : Prop where
  ended : done.2 = .ended (.ok ())
  state : done.1.state = { c.state with reconnecting := false, ledger := c.state.ledger.issue op }
  turn : c.state.phase = .awaitingUserAnswer
  phase : done.1.state.phase = c.state.phase

section Restore

variable {now : Nat} {c asked failed : Conversation} {r : Request}

/-- A reply with a session that the call can use is no failure. -/
theorem replyTo_of_check (now : Nat) (c : Conversation) (change : r.call.operation ≠ .refresh)
    {reply : Reply} {s : Session} (passed : r.call.check reply = .ok s) :
    (c.replyTo now r reply).2 = .ended (.ok ()) := by
  unfold replyTo
  cases call : r.call with
  | start b =>
    rw [call, Call.check] at passed
    simp only [replyStart, passed]
    split <;> rfl
  | get b i =>
    rw [call] at change
    exact absurd rfl change
  | answer b i answer =>
    rw [call, Call.check] at passed
    simp only [replyAnswer, passed]
    split <;> rfl
  | confirm b i =>
    rw [call, Call.check] at passed
    simp only [replyConfirm, passed]
    split <;> rfl

/-- When the answer or the confirmation that was just sent fails, nothing has changed but that its
error is shown. -/
theorem Books.state_of_fails (h : c.Books) {event : Event}
    (sends : c.step now event = (asked, .waiting r))
    (kind : r.call.operation = .answer ∨ r.call.operation = .confirm) {now' : Nat} {reply : Reply}
    {error : ActionError}
    (fails : asked.reply now' r.ticket.seq reply = (failed, .ended (.error error))) :
    ∃ shown, failed.state =
      { c.state with error := some shown, ledger := c.state.ledger.issue r.call.operation } := by
  obtain ⟨_, asks, state, ticket, pending⟩ := exists_asks_of_waiting (congrArg Prod.snd sends)
  obtain ⟨turn, rfl⟩ := asks.of_turn kind
  have change : r.call.operation ≠ .refresh := by
    rcases kind with kind | kind <;> rw [kind] <;> exact Operation.noConfusion
  have flags : (c.state.inFlight.set true r.call.operation).set false r.call.operation =
      c.state.inFlight := by
    have free := State.quiet_of_awaitingUserAnswer turn _ change
    rw [InFlight.set_set, ← free, InFlight.set_get]
  have tracked := (h.step now event).tracked
  rw [sends] at state pending tracked
  have sent : r ∈ asked.pending := by
    rw [pending]
    exact List.mem_concat_self
  have current : asked.state.ledger.isCurrent r.ticket = true := by
    rw [state, ticket]
    exact Ledger.isCurrent_nextTicket h.tracked.counted _
  have takes := (reply_takes tracked sent now' reply).of_change change
  rw [fails] at takes
  generalize failed.state = st' at takes ⊢
  cases takes with
  | dropped late =>
    rw [late] at current
    cases current
  | adopted _ passed =>
    have ends := congrArg Prod.snd fails
    rw [reply_of_mem tracked sent, replyTo_of_check now' _ change passed] at ends
    cases ends
  | @failed error _ refused =>
    refine ⟨.of r.call.operation (.ofService r.call.operation error), ?_⟩
    rw [state, State.surface, flags]

/-- A retry right after that leaves no trace of the failure. -/
theorem Books.restores (h : c.Books) {event : Event}
    (sends : c.step now event = (asked, .waiting r))
    (kind : r.call.operation = .answer ∨ r.call.operation = .confirm) {now' : Nat} {reply : Reply}
    {error : ActionError}
    (fails : asked.reply now' r.ticket.seq reply = (failed, .ended (.error error)))
    (now'' : Nat) : c.Restores r.call.operation (failed.act now'' .retry) := by
  obtain ⟨_, asks, -⟩ := exists_asks_of_waiting (congrArg Prod.snd sends)
  have turn := (asks.of_turn kind).1
  obtain ⟨unshown, s, held, live⟩ := State.rests_of_awaitingUserAnswer turn
  have free := State.quiet_of_awaitingUserAnswer turn
  obtain ⟨shown, state⟩ := h.state_of_fails sends kind fails
  have running : failed.state.shutDown = false := by
    rw [state]
    exact asks.running
  have quiet : failed.state.inFlight.Quiet := by
    rw [state]
    exact free
  have held' : failed.state.session = some s := by
    rw [state]
    exact held
  have same : { failed.state with error := none, reconnecting := false } =
      { c.state with
        reconnecting := false, ledger := c.state.ledger.issue r.call.operation } := by
    rw [state, ← unshown]
  have phase := congrArg State.phase same
  rw [retry_of_kept now'' running quiet held' live]
  exact ⟨rfl, same, turn, phase⟩

end Restore

/-- How a conversation fails, and how a retry gets over it. -/
structure Recovers (c : Conversation) : Prop where
  interrupted : c.state.error ≠ none →
    c.state.inFlight.Quiet ∧ (c.state.phase = .failed ∨ c.state.phase = .confirmed)
  caused : c.state.phase = .failed →
    c.state.error ≠ none ∨ ∃ s, c.state.session = some s ∧ s.status = .abandoned
  resumes : c.state.shutDown = false → c.state.phase = .failed → ∀ now,
    c.Resumes (c.act now .retry)
  restores : ∀ now event asked r, c.step now event = (asked, .waiting r) →
    r.call.operation = .answer ∨ r.call.operation = .confirm →
    ∀ now' reply failed error,
      asked.step now' (.reply r.ticket.seq reply) = (failed, .ended (.error error)) →
      ∀ now'', c.Restores r.call.operation (failed.act now'' .retry)

theorem Books.recovers {c : Conversation} (h : c.Books) (calm : c.state.Calm) : c.Recovers where
  interrupted := by
    intro shown
    obtain ⟨error, some⟩ := Option.ne_none_iff_exists'.mp shown
    exact ⟨calm shown, State.phase_of_error (calm shown) some⟩
  caused := State.of_failed
  resumes := by
    intro running failed now
    have quiet := State.quiet_of_failed failed
    rcases lost_or_live c.state with lost | ⟨s, held, live⟩
    · exact resumes_of_lost now running quiet lost
    · exact resumes_of_kept now running quiet held live
  restores := fun _ _ _ _ sends kind _ _ _ _ fails now => h.restores sends kind fails now

/-- In every run, an error that is shown interrupts the conversation, nothing but an error or an
abandoned session makes it fail, and a retry gets over either. -/
theorem run_recovers (boardId : String) (interval : Period) (page : Page)
    (events : List (Nat × Event)) : ((initial boardId interval page).run events).Recovers := by
  have start := books_initial boardId interval page
  have calm : ((initial boardId interval page).run events).state.Calm := by
    refine start.keeps (P := fun c => c.state.Calm) ?_ (State.calm_initial boardId) events
    intro c now event books kept
    exact (step_changes now c event).calm kept books.tracked books.balanced
  exact (start.run events).recovers calm

/-- An answer that is lost on its way can be given again. -/
example :
    ((opened.run [(0, .submitText "Growth"),
      (0, .reply 2 (.error (.network "connection reset")))]).act 0 .retry).1.state =
        { opened.state with ledger := opened.state.ledger.issue .answer } := by
  decide +kernel

end Conversation

end Dialogue
