import Dialogue.Conversation.Replies
import Dialogue.Proofs.Except

/-! # The state, part by part

What the operations on the state leave alone, what the checks of a reply say about its session, and
what a phase says about the session and the flags. -/

namespace Dialogue

/-- Whether a request of a kind is under way. -/
def InFlight.get (f : InFlight) : Operation → Bool
  | .start => f.starting
  | .refresh => f.refreshing
  | .answer => f.submitting
  | .confirm => f.confirming

/-- Notes whether a request of a kind is under way. -/
def InFlight.set (f : InFlight) (busy : Bool) : Operation → InFlight
  | .start => { f with starting := busy }
  | .refresh => { f with refreshing := busy }
  | .answer => { f with submitting := busy }
  | .confirm => { f with confirming := busy }

theorem InFlight.get_set (f : InFlight) (busy : Bool) (op other : Operation) :
    (f.set busy op).get other = if other = op then busy else f.get other := by
  cases op <;> cases other <;> rfl

theorem InFlight.set_get (f : InFlight) (op : Operation) : f.set (f.get op) op = f := by
  cases op <;> rfl

theorem InFlight.set_set (f : InFlight) (busy busy' : Bool) (op : Operation) :
    (f.set busy op).set busy' op = f.set busy' op := by
  cases op <;> rfl

@[simp] theorem InFlight.get_none (op : Operation) : InFlight.none.get op = false := by
  cases op <;> rfl

/-- Nothing but refreshes is under way. -/
def InFlight.Quiet (f : InFlight) : Prop := ∀ op, op ≠ .refresh → f.get op = false

theorem InFlight.quiet_iff {f : InFlight} :
    f.Quiet ↔ f.starting = false ∧ f.submitting = false ∧ f.confirming = false := by
  constructor
  · intro quiet
    exact ⟨quiet .start Operation.noConfusion, quiet .answer Operation.noConfusion,
      quiet .confirm Operation.noConfusion⟩
  · rintro ⟨starting, submitting, confirming⟩ op change
    cases op with
    | start => exact starting
    | refresh => exact absurd rfl change
    | answer => exact submitting
    | confirm => exact confirming

theorem InFlight.quiet_of_free {f : InFlight}
    (free : (f.starting || f.submitting || f.confirming) = false) : f.Quiet := by
  rw [Bool.or_eq_false_iff, Bool.or_eq_false_iff] at free
  exact quiet_iff.mpr ⟨free.1.1, free.1.2, free.2⟩

/-- The session in a reply, if it is one that the call can use. -/
def Call.check : Call → Reply → Reply
  | .start b, reply => reply.bind (Session.checkBoard b)
  | .get _ _, reply => reply
  | .answer b i _, reply => reply.bind (Session.check b i)
  | .confirm b i, reply => (reply.bind (Session.check b i)).bind Session.checkConfirmed

theorem Session.checkBoard_eq_ok {boardId : String} {s s' : Session} :
    s.checkBoard boardId = .ok s' ↔ s = s' ∧ s.boardId = boardId := by
  unfold Session.checkBoard
  by_cases same : s.boardId = boardId
  · simp [same]
  · simp [same]

theorem Session.check_eq_ok {boardId sessionId : String} {s s' : Session} :
    s.check boardId sessionId = .ok s' ↔ s = s' ∧ s.boardId = boardId ∧ s.id = sessionId := by
  unfold Session.check
  by_cases board : s.boardId = boardId
  · by_cases id : s.id = sessionId
    · simp [Session.checkBoard, board, id, bind, Except.bind]
    · simp [Session.checkBoard, board, id, bind, Except.bind]
  · simp [Session.checkBoard, board, bind, Except.bind]

theorem Session.checkConfirmed_eq_ok {s s' : Session} :
    s.checkConfirmed = .ok s' ↔ s = s' ∧ s.status = .confirmed := by
  unfold Session.checkConfirmed
  by_cases confirmed : s.status = .confirmed
  · simp [confirmed]
  · simp [confirmed]

/-- A usable session comes back as it is, and is about the board and the session asked for. -/
theorem Call.check_eq_ok {call : Call} {reply : Reply} {s : Session}
    (h : call.check reply = .ok s) (change : call.operation ≠ .refresh) :
    reply = .ok s ∧ s.boardId = call.boardId ∧ ∀ i, call.sessionId? = some i → s.id = i := by
  cases call with
  | start b =>
    obtain ⟨a, rfl, passed⟩ := Except.bind_eq_ok.mp h
    obtain ⟨rfl, board⟩ := Session.checkBoard_eq_ok.mp passed
    exact ⟨rfl, board, by rintro i ⟨⟩⟩
  | get b i => exact absurd rfl change
  | answer b i a =>
    obtain ⟨a, rfl, passed⟩ := Except.bind_eq_ok.mp h
    obtain ⟨rfl, board, id⟩ := Session.check_eq_ok.mp passed
    exact ⟨rfl, board, by rintro j ⟨⟩; exact id⟩
  | confirm b i =>
    obtain ⟨a, first, confirmed⟩ := Except.bind_eq_ok.mp h
    obtain ⟨a', rfl, passed⟩ := Except.bind_eq_ok.mp first
    obtain ⟨rfl, board, id⟩ := Session.check_eq_ok.mp passed
    obtain ⟨rfl, -⟩ := Session.checkConfirmed_eq_ok.mp confirmed
    exact ⟨rfl, board, by rintro j ⟨⟩; exact id⟩

/-- A confirmation is only answered by a confirmed session. -/
theorem Call.confirmed_of_check {call : Call} {reply : Reply} {s : Session}
    (h : call.check reply = .ok s) (confirm : call.operation = .confirm) :
    s.status = .confirmed := by
  cases call with
  | start b => cases confirm
  | get b i => cases confirm
  | answer b i a => cases confirm
  | confirm b i =>
    obtain ⟨a, -, confirmed⟩ := Except.bind_eq_ok.mp h
    obtain ⟨rfl, status⟩ := Session.checkConfirmed_eq_ok.mp confirmed
    exact status

/-- An answer can use every session of its board and its id. -/
theorem Call.check_of_answer {call : Call} {s : Session} (answer : call.operation = .answer)
    (board : call.boardId = s.boardId) (id : call.sessionId? = some s.id) :
    call.check (.ok s) = .ok s := by
  cases call with
  | start b => cases answer
  | get b i => cases answer
  | answer b i a => exact Session.check_eq_ok.mpr ⟨rfl, board.symm, (Option.some.inj id).symm⟩
  | confirm b i => cases answer

/-- A confirmation is about a board and a session. -/
theorem Call.exists_of_confirm {call : Call} (confirm : call.operation = .confirm) :
    ∃ b i, call = .confirm b i := by
  cases call with
  | start b => cases confirm
  | get b i => cases confirm
  | answer b i a => cases confirm
  | confirm b i => exact ⟨b, i, rfl⟩

/-- A confirmation can use every session of its board and its id that is confirmed. -/
theorem Call.check_of_confirm {s : Session} (status : s.status = .confirmed) :
    (Call.confirm s.boardId s.id).check (.ok s) = .ok s := by
  refine Except.bind_eq_ok.mpr ⟨s, ?_, Session.checkConfirmed_eq_ok.mpr ⟨rfl, status⟩⟩
  exact Session.check_eq_ok.mpr ⟨rfl, rfl, rfl⟩

/-- The session may take the place of another one: it is the same session, no shorter, and confirmed
if the other one is. -/
structure Session.Supersedes (s held : Session) : Prop where
  id : s.id = held.id
  boardId : s.boardId = held.boardId
  length : held.messages.length ≤ s.messages.length
  status : held.status = .confirmed → s.status = .confirmed

theorem Session.restingPhase_ne_confirmed (s : Session) : s.restingPhase ≠ .confirmed := by
  unfold Session.restingPhase
  split
  · exact Phase.noConfusion
  · split
    · exact Phase.noConfusion
    · exact Phase.noConfusion

theorem Session.restingPhase_eq_failed_iff {s : Session} :
    s.restingPhase = .failed ↔ s.status = .abandoned := by
  unfold Session.restingPhase
  by_cases abandoned : s.status = .abandoned
  · simp [abandoned]
  · by_cases turn : s.awaitsUser = true
    · simp [abandoned, turn]
    · simp [abandoned, turn]

namespace State

variable (st : State)

/-- Takes over the session that an operation has brought. -/
def adopt (st : State) (op : Operation) (s : Session) : State :=
  match op with
  | .answer => { st.replaceSession s with selectedOption := none, reconnecting := false }
  | .confirm => st.replaceSession s
  | _ => { st.replaceSession s with reconnecting := false }

@[simp] theorem adopt_session (op : Operation) (s : Session) :
    (st.adopt op s).session = some s := by
  cases op <;> rfl

@[simp] theorem adopt_inFlight (op : Operation) (s : Session) :
    (st.adopt op s).inFlight = st.inFlight := by
  cases op <;> rfl

@[simp] theorem adopt_error (op : Operation) (s : Session) : (st.adopt op s).error = st.error := by
  cases op <;> rfl

@[simp] theorem adopt_boardId (op : Operation) (s : Session) :
    (st.adopt op s).boardId = st.boardId := by
  cases op <;> rfl

@[simp] theorem adopt_refreshes (op : Operation) (s : Session) :
    (st.adopt op s).refreshes = st.refreshes := by
  cases op <;> rfl

@[simp] theorem adopt_ledger (op : Operation) (s : Session) :
    (st.adopt op s).ledger = st.ledger := by
  cases op <;> rfl

@[simp] theorem adopt_shutDown (op : Operation) (s : Session) :
    (st.adopt op s).shutDown = st.shutDown := by
  cases op <;> rfl

/-- The end of a refresh touches its count and its flag, and nothing else. -/
theorem finishRefresh_eq (t : Ticket) :
    st.finishRefresh t =
      { st with
        refreshes := (st.finishRefresh t).refreshes
        inFlight :=
          { st.inFlight with refreshing := (st.finishRefresh t).inFlight.refreshing } } := by
  unfold finishRefresh
  split <;> rfl

@[simp] theorem finishRefresh_session (t : Ticket) :
    (st.finishRefresh t).session = st.session := by
  rw [finishRefresh_eq]

@[simp] theorem finishRefresh_boardId (t : Ticket) :
    (st.finishRefresh t).boardId = st.boardId := by
  rw [finishRefresh_eq]

@[simp] theorem finishRefresh_ledger (t : Ticket) : (st.finishRefresh t).ledger = st.ledger := by
  rw [finishRefresh_eq]

@[simp] theorem finishRefresh_shutDown (t : Ticket) :
    (st.finishRefresh t).shutDown = st.shutDown := by
  rw [finishRefresh_eq]

/-- The refreshes of an earlier epoch are not counted. -/
theorem finishRefresh_of_old {st : State} {t : Ticket} (old : st.ledger.sameEpoch t = false) :
    st.finishRefresh t = st := by
  unfold finishRefresh
  rw [old]
  rfl

theorem finishRefresh_get (t : Ticket) {op : Operation} (change : op ≠ .refresh) :
    (st.finishRefresh t).inFlight.get op = st.inFlight.get op := by
  rw [finishRefresh_eq]
  cases op with
  | refresh => exact absurd rfl change
  | _ => rfl

/-- A refresh of the present epoch is taken off the count. -/
theorem finishRefresh_refreshes (t : Ticket) :
    (st.finishRefresh t).refreshes =
      if st.ledger.sameEpoch t then st.refreshes - 1 else st.refreshes := by
  unfold finishRefresh
  split <;> rfl

/-- The flag of the refreshes goes on to agree with their count. -/
theorem finishRefresh_refreshing (t : Ticket)
    (agrees : st.inFlight.refreshing = decide (0 < st.refreshes)) :
    (st.finishRefresh t).inFlight.refreshing = decide (0 < (st.finishRefresh t).refreshes) := by
  unfold finishRefresh
  split
  · rfl
  · exact agrees

/-- A refreshed session is accepted when it supersedes the one that is held. -/
theorem acceptsRefresh_iff {st : State} {s : Session} :
    st.acceptsRefresh s = true ↔ ∃ held, st.session = some held ∧ s.Supersedes held := by
  unfold acceptsRefresh
  cases st.session with
  | none => simp
  | some held =>
    dsimp only
    rw [Bool.and_eq_true, Bool.and_eq_true, Bool.and_eq_true, Bool.or_eq_true, decide_eq_true_iff,
      decide_eq_true_iff, decide_eq_true_iff, decide_eq_true_iff, decide_eq_true_iff]
    constructor
    · rintro ⟨⟨⟨id, board⟩, length⟩, status⟩
      exact ⟨held, rfl, id.symm, board.symm, length, Decidable.imp_iff_not_or.mpr status⟩
    · rintro ⟨_, ⟨⟩, id, board, length, status⟩
      exact ⟨⟨⟨id.symm, board.symm⟩, length⟩, Decidable.imp_iff_not_or.mp status⟩

@[simp] theorem finishRefresh_acceptsRefresh (t : Ticket) (s : Session) :
    (st.finishRefresh t).acceptsRefresh s = st.acceptsRefresh s := by
  rw [acceptsRefresh, acceptsRefresh, finishRefresh_session]

/-- How a state comes to its phase. -/
inductive Stands (st : State) : Phase → Prop where
  | confirmed {s : Session} (held : st.session = some s) (status : s.status = .confirmed) :
      st.Stands .confirmed
  | confirming (busy : st.inFlight.confirming = true) : st.Stands .confirming
  | submitting (busy : st.inFlight.submitting = true) (other : st.inFlight.confirming = false) :
      st.Stands .submittingAnswer
  | starting (busy : st.inFlight.starting = true) : st.Stands .starting
  | failed {error : SurfacedError} (shown : st.error = some error) : st.Stands .failed
  | resting {s : Session} {p : Phase} (held : st.session = some s) (rests : s.restingPhase = p)
      (starting : st.inFlight.starting = false) (submitting : st.inFlight.submitting = false)
      (confirming : st.inFlight.confirming = false) : st.Stands p
  | vacant (vacant : st.session = none) : st.Stands .starting

theorem stands : st.Stands st.phase := by
  unfold phase Phase.project
  split
  · rename_i confirmed
    obtain ⟨s, held, status⟩ := (Option.any_eq_true _ _).mp confirmed
    exact .confirmed held (of_decide_eq_true status)
  · split
    · rename_i busy
      exact .confirming busy
    · rename_i confirming
      rw [Bool.not_eq_true] at confirming
      split
      · rename_i busy
        exact .submitting busy confirming
      · rename_i submitting
        rw [Bool.not_eq_true] at submitting
        split
        · rename_i busy
          exact .starting busy
        · rename_i starting
          rw [Bool.not_eq_true] at starting
          split
          · rename_i shown
            obtain ⟨error, shown⟩ := Option.isSome_iff_exists.mp shown
            exact .failed shown
          · cases held : st.session with
            | some s => exact .resting held rfl starting submitting confirming
            | none => exact .vacant held

/-- A conversation is confirmed when the session that it holds is. -/
theorem phase_eq_confirmed_iff {st : State} :
    st.phase = .confirmed ↔ ∃ s, st.session = some s ∧ s.status = .confirmed := by
  constructor
  · intro confirmed
    have stands := st.stands
    rw [confirmed] at stands
    cases stands with
    | confirmed held status => exact ⟨_, held, status⟩
    | resting held rests => exact absurd rests (Session.restingPhase_ne_confirmed _)
  · rintro ⟨s, held, status⟩
    simp [phase, Phase.project, held, status]

/-- On the user's turn nothing but a refresh is under way. -/
theorem of_awaitingUserAnswer {st : State} (turn : st.phase = .awaitingUserAnswer) :
    st.inFlight.starting = false ∧ st.inFlight.submitting = false ∧
      st.inFlight.confirming = false := by
  have stands := st.stands
  rw [turn] at stands
  cases stands with
  | resting held rests starting submitting confirming =>
    exact ⟨starting, submitting, confirming⟩

theorem quiet_of_awaitingUserAnswer {st : State} (turn : st.phase = .awaitingUserAnswer) :
    st.inFlight.Quiet :=
  InFlight.quiet_iff.mpr (of_awaitingUserAnswer turn)

/-- With nothing but refreshes under way, the session and the error decide about the phase. -/
theorem phase_of_quiet {st : State} (quiet : st.inFlight.Quiet) :
    st.phase = .project st.session .none st.error := by
  cases flags : st.inFlight with
  | mk starting refreshing submitting confirming =>
    rw [flags, InFlight.quiet_iff] at quiet
    obtain ⟨rfl, rfl, rfl⟩ := quiet
    rw [phase, flags]
    rfl

/-- An error that is shown interrupts the conversation, unless that is confirmed. -/
theorem phase_of_error {st : State} (quiet : st.inFlight.Quiet) {error : SurfacedError}
    (shown : st.error = some error) : st.phase = .failed ∨ st.phase = .confirmed := by
  rw [phase_of_quiet quiet]
  unfold Phase.project
  split
  · exact .inr rfl
  · left
    simp [shown, InFlight.none]

/-- On the user's turn no error is shown, and the session is not abandoned. -/
theorem rests_of_awaitingUserAnswer {st : State} (turn : st.phase = .awaitingUserAnswer) :
    st.error = none ∧ ∃ s, st.session = some s ∧ s.status ≠ .abandoned := by
  constructor
  · cases shown : st.error with
    | none => rfl
    | some error =>
      rcases phase_of_error (quiet_of_awaitingUserAnswer turn) shown with phase | phase
      · simp [turn] at phase
      · simp [turn] at phase
  · have stands := st.stands
    rw [turn] at stands
    cases stands with
    | resting held rests =>
      refine ⟨_, held, fun abandoned => ?_⟩
      rw [Session.restingPhase_eq_failed_iff.mpr abandoned] at rests
      cases rests

/-- A conversation fails by an error that is shown, or by an abandoned session. -/
theorem of_failed {st : State} (failed : st.phase = .failed) :
    st.error ≠ none ∨ ∃ s, st.session = some s ∧ s.status = .abandoned := by
  have stands := st.stands
  rw [failed] at stands
  cases stands with
  | failed shown =>
    left
    simp [shown]
  | resting held rests => exact .inr ⟨_, held, Session.restingPhase_eq_failed_iff.mp rests⟩

/-- While a request is under way that is no refresh, the conversation has not failed: the flags come
before the error and the abandoned session. -/
theorem quiet_of_failed {st : State} (failed : st.phase = .failed) : st.inFlight.Quiet := by
  rw [InFlight.quiet_iff]
  unfold phase Phase.project at failed
  grind

/-- The assistant is only awaited in a session. -/
theorem exists_session_of_awaitingAssistant {st : State} (turn : st.phase = .awaitingAssistant) :
    ∃ s, st.session = some s := by
  have stands := st.stands
  rw [turn] at stands
  cases stands with
  | resting held rests => exact ⟨_, held⟩

end State

end Dialogue
