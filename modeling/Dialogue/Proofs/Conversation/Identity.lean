import Dialogue.Proofs.Conversation.Epochs

/-! # One board, one session

A conversation is about one board, and within an epoch about one session. Whatever sessions come
back, the one that is held belongs to the board, and the reply that is taken over is about the
session that was asked for, which is still the one that is held. Another session comes only after
the one that is held has been abandoned, given up by a retry, and a new one has been started.

A request that can change the session carries the ids against which its reply is checked. The reply
to a refresh is checked against the session that is held by then: that this is the one that was
asked for is a part of the invariant `Identified`. -/

namespace Dialogue

/-- The call is about the session and its board. -/
def Call.IsAbout (call : Call) (s : Session) : Prop :=
  call.boardId = s.boardId ∧ call.sessionId? = some s.id

/-- The session has the ids of another one. -/
def Session.IsSame (s held : Session) : Prop := s.boardId = held.boardId ∧ s.id = held.id

theorem Call.IsAbout.of_same {call : Call} {s held : Session} (h : call.IsAbout held)
    (same : s.IsSame held) : call.IsAbout s :=
  ⟨h.1.trans same.1.symm, by rw [h.2, same.2]⟩

theorem Call.IsAbout.same {call : Call} {s held : Session} (h : call.IsAbout s)
    (h' : call.IsAbout held) : s.IsSame held :=
  ⟨h.1.symm.trans h'.1, Option.some.inj (h.2.symm.trans h'.2)⟩

namespace State

/-- The session in the reply to a request is taken over: the request is current, and its call can
use the session, or, if it is a refresh, the state accepts it. -/
def TakesOver (st : State) (r : Request) (s : Session) : Prop :=
  st.ledger.isCurrent r.ticket = true ∧
    if r.call.operation = .refresh then st.acceptsRefresh s = true
    else r.call.check (.ok s) = .ok s

/-- What a session that is taken over has to do with the request and with the state. -/
structure Fits (st : State) (r : Request) (s : Session) : Prop where
  board : s.boardId = st.boardId
  asked : r.call.boardId = s.boardId
  start : r.call.operation = .start → st.session = none
  later : r.call.operation ≠ .start →
    r.call.IsAbout s ∧ ∃ held, st.session = some held ∧ r.call.IsAbout held

/-- The reply to a request brings the session that is taken over, in the way of its operation, and
otherwise leaves the session that is held and the highlighted option alone. -/
theorem Takes.taken_cases {st st' : State} {r : Request} {reply : Reply}
    (h : st.Takes r reply st') :
    (∃ (s : Session) (base : State), reply = .ok s ∧ st.TakesOver r s ∧
        st' = base.adopt r.call.operation s ∧ base.session = st.session ∧
        base.selectedOption = st.selectedOption) ∨
      (∀ s, reply = .ok s → ¬ st.TakesOver r s) ∧ st'.session = st.session ∧
        st'.selectedOption = st.selectedOption := by
  cases h with
  | change change takes =>
    cases takes with
    | dropped late =>
      refine .inr ⟨fun s _ taken => ?_, rfl, rfl⟩
      rw [taken.1] at late
      cases late
    | failed current refused =>
      refine .inr ⟨fun s ok taken => ?_, rfl, rfl⟩
      have passed := taken.2
      rw [if_neg change] at passed
      rw [ok, passed] at refused
      cases refused
    | @adopted s current passed =>
      obtain ⟨rfl, -⟩ := Call.check_eq_ok passed change
      exact .inl ⟨s, _, rfl, ⟨current, by rwa [if_neg change]⟩, rfl, rfl, rfl⟩
  | refresh get takes =>
    have option : (st.finishRefresh r.ticket).selectedOption = st.selectedOption := by
      rw [finishRefresh_eq]
    cases takes with
    | overtaken late =>
      refine .inr ⟨fun s _ taken => ?_, finishRefresh_session _ _, option⟩
      rw [taken.1] at late
      cases late
    | missed current =>
      exact .inr ⟨fun s ok => (nomatch ok), finishRefresh_session _ _, option⟩
    | rejected current refused =>
      refine .inr ⟨fun s ok taken => ?_, finishRefresh_session _ _, option⟩
      have accepted := taken.2
      rw [if_pos get, ← Except.ok.inj ok, refused] at accepted
      cases accepted
    | @refreshed s current accepted =>
      rw [get]
      exact .inl ⟨s, _, rfl, ⟨current, by rwa [if_pos get]⟩, rfl, finishRefresh_session _ _, option⟩

/-- The reply to a request brings the session that is taken over, and otherwise leaves the one that
is held alone. -/
theorem Takes.session_cases {st st' : State} {r : Request} {reply : Reply}
    (h : st.Takes r reply st') :
    (∃ s, reply = .ok s ∧ st.TakesOver r s ∧ st'.session = some s) ∨
      (∀ s, reply = .ok s → ¬ st.TakesOver r s) ∧ st'.session = st.session := by
  rcases h.taken_cases with ⟨s, base, ok, taken, rfl, -⟩ | ⟨refused, session, -⟩
  · exact .inl ⟨s, ok, taken, adopt_session _ _ _⟩
  · exact .inr ⟨refused, session⟩

end State

namespace Conversation

/-- The session and the requests of the present epoch are about one board. As long as the reply to
a refresh can be taken over, nothing but the session that it asks for can be held. -/
structure Identified (st : State) (pending : List Request) : Prop where
  board : ∀ s, st.session = some s → s.boardId = st.boardId
  asked : ∀ r ∈ pending, st.ledger.sameEpoch r.ticket = true → r.call.boardId = st.boardId
  refresh : ∀ r ∈ pending, r.call.operation = .refresh → st.ledger.isCurrent r.ticket = true →
    st.inFlight.starting = false ∧ ∀ s, st.session = some s → r.call.IsAbout s

theorem identified_initial (boardId : String) : Identified (.initial boardId) [] where
  board := fun _ none => nomatch none
  asked := fun _ none => nomatch none
  refresh := fun _ none => nomatch none

section Identified

variable {st st' : State} {pending pending' : List Request}

/-- With no new request, it is enough that no session of other ids is held and no start is made. -/
theorem Identified.of_same (h : Identified st pending) (boardId : st'.boardId = st.boardId)
    (ledger : st'.ledger = st.ledger)
    (free : st.inFlight.starting = false → st'.inFlight.starting = false)
    (session : ∀ s, st'.session = some s → ∃ held, st.session = some held ∧ s.IsSame held)
    (fewer : ∀ r ∈ pending', r ∈ pending) : Identified st' pending' where
  board := by
    intro s held'
    obtain ⟨held, held, same⟩ := session s held'
    rw [same.1, boardId]
    exact h.board _ held
  asked := by
    rw [boardId, ledger]
    exact fun r member => h.asked r (fewer r member)
  refresh := by
    rw [ledger]
    intro r member get current
    obtain ⟨starting, about⟩ := h.refresh r (fewer r member) get current
    refine ⟨free starting, fun s held' => ?_⟩
    obtain ⟨held, held, same⟩ := session s held'
    exact (about _ held).of_same same

/-- In a new epoch no request counts. -/
theorem Identified.of_invalidateAll (tracked : Tracked st pending)
    (ledger : st'.ledger = st.ledger.invalidateAll)
    (board : ∀ s, st'.session = some s → s.boardId = st'.boardId) : Identified st' pending where
  board := board
  asked := by
    intro r member epoch
    rw [ledger, Ledger.sameEpoch_invalidateAll (tracked.covers r member)] at epoch
    cases epoch
  refresh := by
    intro r member get current
    rw [ledger, Ledger.isCurrent_invalidateAll (tracked.covers r member)] at current
    cases current

/-- A new request is about the board, and a refresh is about the session that is held. It ends the
refreshes before it. -/
theorem Identified.of_asks (h : Identified st pending) (tracked : Tracked st pending)
    (balanced : Balanced st pending) {call : Call} (asks : st.Asks call st') (poll : Option Nat) :
    Identified { st' with ledger := st'.ledger.issue call.operation }
      (pending ++ [⟨st'.ledger.nextTicket call.operation, call, poll⟩]) where
  board := by
    show ∀ s, st'.session = some s → s.boardId = st'.boardId
    rw [asks.session, asks.boardId]
    exact h.board
  asked := by
    show ∀ r : Request, r ∈ _ → (st'.ledger.issue call.operation).sameEpoch r.ticket = true →
      r.call.boardId = st'.boardId
    rw [asks.boardId, asks.ledger]
    intro r member epoch
    rcases List.mem_append.mp member with old | new
    · exact h.asked r old epoch
    · rw [List.mem_singleton.mp new]
      by_cases start : call.operation = .start
      · exact (asks.vacant start).2
      · obtain ⟨s, held, board, -⟩ := asks.held start
        exact board.trans (h.board s held)
  refresh := by
    show ∀ r : Request, r ∈ _ → r.call.operation = .refresh →
      (st'.ledger.issue call.operation).isCurrent r.ticket = true →
        st'.inFlight.starting = false ∧ ∀ s, st'.session = some s → r.call.IsAbout s
    rw [asks.session, asks.ledger]
    intro r member get current
    rcases List.mem_append.mp member with old | new
    · obtain ⟨-, other, -⟩ := (Ledger.isCurrent_issue_iff (tracked.covers r old) _).mp current
      exact absurd ((tracked.operation r old).trans get) other
    · rw [List.mem_singleton.mp new] at get ⊢
      have kind : call.operation = .refresh := get
      have later : call.operation ≠ .start := by simp [kind]
      obtain ⟨s, held, board, id⟩ := asks.held later
      constructor
      · -- a session is held, so that no start is under way
        have kept : st'.inFlight.starting = st.inFlight.starting := by
          rw [asks.inFlight, kind]
          rfl
        rw [kept, ← Bool.not_eq_true]
        intro busy
        rw [balanced.vacant busy] at held
        cases held
      · intro s' held'
        obtain rfl : s = s' := Option.some.inj (held.symm.trans held')
        exact ⟨board, id⟩

/-- A session that is taken over is the one that was asked for, and that is held. -/
theorem Identified.fits (h : Identified st pending) (tracked : Tracked st pending)
    (balanced : Balanced st pending) {r : Request} (sent : r ∈ pending) {s : Session}
    (taken : st.TakesOver r s) : st.Fits r s := by
  obtain ⟨current, passes⟩ := taken
  have epoch := Ledger.sameEpoch_of_isCurrent current
  have asked := h.asked r sent epoch
  have member : r ∈ underWay st pending r.call.operation :=
    mem_underWay.mpr ⟨sent, epoch, tracked.operation r sent⟩
  by_cases get : r.call.operation = .refresh
  · rw [if_pos get] at passes
    obtain ⟨held, some, supersedes⟩ := State.acceptsRefresh_iff.mp passes
    have about := (h.refresh r sent get current).2 held some
    have same : s.IsSame held := ⟨supersedes.boardId, supersedes.id⟩
    refine ⟨same.1.trans (h.board held some), (about.of_same same).1, fun start => ?_,
      fun _ => ⟨about.of_same same, held, some, about⟩⟩
    rw [get] at start
    cases start
  · rw [if_neg get] at passes
    obtain ⟨-, board, id⟩ := Call.check_eq_ok passes get
    refine ⟨board.trans asked, board.symm, fun start => ?_, fun later => ?_⟩
    · rw [start] at member
      exact balanced.vacant (balanced.busy_of_mem Operation.noConfusion member)
    · obtain ⟨held, some, about⟩ := balanced.held _ get later r member
      exact ⟨⟨board.symm, by rw [about.2, id _ about.2]⟩, held, some, about⟩

theorem Identified.of_takes (h : Identified st pending) (tracked : Tracked st pending)
    (balanced : Balanced st pending) {r : Request} {reply : Reply} (sent : r ∈ pending)
    (takes : st.Takes r reply st') : Identified st' (pending.erase r) := by
  have fewer : ∀ r' ∈ pending.erase r, r' ∈ pending := fun r' => List.mem_of_mem_erase
  have free : st.inFlight.get .start = false → st'.inFlight.get .start = false :=
    takes.free Operation.noConfusion
  rcases takes.session_cases with ⟨s, -, taken, new⟩ | ⟨-, same⟩
  · have fits := h.fits tracked balanced sent taken
    by_cases start : r.call.operation = .start
    · refine ⟨?_, ?_, ?_⟩
      · intro s' held
        obtain rfl : s = s' := Option.some.inj (new.symm.trans held)
        rw [fits.board, takes.boardId]
      · rw [takes.boardId, takes.ledger]
        exact fun r' member => h.asked r' (fewer r' member)
      · -- while a start is under way, no refresh is current
        rw [takes.ledger]
        intro r' member get current
        have idle := (h.refresh r' (fewer r' member) get current).1
        have busy := balanced.busy_of_pending tracked sent (Ledger.sameEpoch_of_isCurrent taken.1)
          start Operation.noConfusion
        rw [InFlight.get, idle] at busy
        cases busy
    · obtain ⟨about, held, some, about'⟩ := fits.later start
      refine h.of_same takes.boardId takes.ledger free ?_ fewer
      intro s' held'
      obtain rfl : s = s' := Option.some.inj (new.symm.trans held')
      exact ⟨held, some, about.same about'⟩
  · refine h.of_same takes.boardId takes.ledger free ?_ fewer
    intro s held
    exact ⟨s, same.symm.trans held, rfl, rfl⟩

theorem Identified.change (h : Identified st pending) (tracked : Tracked st pending)
    (balanced : Balanced st pending) {event : Event} {request : Option Request}
    (change : Change st pending event st' pending' request) : Identified st' pending' := by
  cases change with
  | nothing idle => exact h
  | asked kind asks => exact h.of_asks tracked balanced asks _
  | selected running turn offered => exact ⟨h.board, h.asked, h.refresh⟩
  | cleared running free =>
    refine h.of_same (cleared_boardId st) (cleared_ledger st) ?_ ?_ fun _ => id
    · rw [cleared_inFlight]
      exact id
    · intro s held
      rcases cleared_session st with same | given
      · exact ⟨s, same.symm.trans held, rfl, rfl⟩
      · rw [given] at held
        cases held
  | moved running other => exact .of_invalidateAll tracked rfl fun _ none => nomatch none
  | closed running => exact .of_invalidateAll tracked rfl h.board
  | replied sent takes => exact h.of_takes tracked balanced sent takes

end Identified

section Session

variable {st st' : State} {pending pending' : List Request} {event : Event}
  {request : Option Request} {s : Session}

/-- Within an epoch, an event keeps the session that is held, or gives it up as abandoned, when no
start is under way. -/
theorem Change.session_of_held (change : Change st pending event st' pending' request)
    (identified : Identified st pending) (tracked : Tracked st pending)
    (balanced : Balanced st pending) (epoch : st'.ledger.epoch = st.ledger.epoch)
    (held : st.session = some s) :
    (∃ s', st'.session = some s' ∧ s'.IsSame s) ∨
      event = .clearError ∧ s.status = .abandoned ∧ st'.session = none ∧
        st'.inFlight.starting = false := by
  cases change with
  | nothing idle => exact .inl ⟨s, held, rfl, rfl⟩
  | asked kind asks => exact .inl ⟨s, asks.session.trans held, rfl, rfl⟩
  | selected running turn offered => exact .inl ⟨s, held, rfl, rfl⟩
  | cleared running free =>
    by_cases abandoned : s.status = .abandoned
    · refine .inr ⟨rfl, abandoned, ?_, ?_⟩
      · rw [cleared_of_abandoned held abandoned]
      · rw [cleared_inFlight]
        exact InFlight.quiet_of_free free .start Operation.noConfusion
    · have kept : ∀ t, st.session = some t → t.status ≠ .abandoned := by
        rintro t some
        rwa [Option.some.inj (some.symm.trans held)]
      refine .inl ⟨s, ?_, rfl, rfl⟩
      rw [cleared_of_kept kept]
      exact held
  | moved running other => exact absurd epoch (Nat.succ_ne_self _)
  | closed running => exact absurd epoch (Nat.succ_ne_self _)
  | @replied r reply _ sent takes =>
    rcases takes.session_cases with ⟨s', -, taken, new⟩ | ⟨-, same⟩
    · have fits := identified.fits tracked balanced sent taken
      have later : r.call.operation ≠ .start := by
        intro start
        rw [fits.start start] at held
        cases held
      obtain ⟨about, held', some, about'⟩ := fits.later later
      obtain rfl : s = held' := Option.some.inj (held.symm.trans some)
      exact .inl ⟨s', new, about.same about'⟩
    · exact .inl ⟨s, same.trans held, rfl, rfl⟩

/-- Only the reply to a current start brings a session when none is held. -/
theorem Change.session_of_vacant (change : Change st pending event st' pending' request)
    (identified : Identified st pending) (tracked : Tracked st pending)
    (balanced : Balanced st pending) (vacant : st.session = none) (new : st'.session = some s) :
    ∃ r, event = .reply r.ticket.seq (.ok s) ∧ r ∈ pending ∧ r.call.operation = .start ∧
      st.TakesOver r s := by
  cases change with
  | nothing idle => simp [vacant] at new
  | asked kind asks => simp [asks.session, vacant] at new
  | selected running turn offered => simp [vacant] at new
  | cleared running free =>
    rcases cleared_session st with same | given
    · simp [same, vacant] at new
    · simp [given] at new
  | moved running other => cases new
  | closed running => exact absurd (vacant.symm.trans new) (nomatch ·)
  | @replied r reply _ sent takes =>
    rcases takes.session_cases with ⟨s', rfl, taken, some⟩ | ⟨-, same⟩
    · obtain rfl : s' = s := Option.some.inj (some.symm.trans new)
      refine ⟨r, rfl, sent, Decidable.byContradiction fun later => ?_, taken⟩
      obtain ⟨-, held, held', -⟩ := (identified.fits tracked balanced sent taken).later later
      rw [vacant] at held'
      cases held'
    · simp [same, vacant] at new

end Session

/-- What every conversation of a run has: exact books, and one board and one session that they are
about. -/
structure Bound (c : Conversation) : Prop where
  books : c.Books
  identified : Identified c.state c.pending

theorem bound_initial (boardId : String) (interval : Period) (page : Page) :
    (initial boardId interval page).Bound :=
  ⟨books_initial boardId interval page, identified_initial boardId⟩

theorem Bound.step {c : Conversation} (h : c.Bound) (now : Nat) (event : Event) :
    (c.step now event).1.Bound where
  books := h.books.step now event
  identified := h.identified.change h.books.tracked h.books.balanced (step_changes now c event)

theorem Bound.run {c : Conversation} (h : c.Bound) (events : List (Nat × Event)) :
    (c.run events).Bound :=
  run_keeps (fun _ now event kept => kept.step now event) events c h

/-- In the course of the events, a retry gives up the abandoned session of this id, and the reply
to a start that is sent after that brings another one. -/
def Restarts (c : Conversation) (events : List (Nat × Event)) (id : String) : Prop :=
  ∃ before now between now' r s' after,
    events = before ++ (now, .clearError) :: between ++
      (now', .reply r.ticket.seq (.ok s')) :: after ∧
    (∃ s, (c.run before).state.session = some s ∧ s.id = id ∧ s.status = .abandoned) ∧
    ((c.run before).step now .clearError).1.state.session = none ∧
    r ∈ ((c.run before).step now .clearError).1.sent between ∧ r.call.operation = .start ∧
    (((c.run before).step now .clearError).1.run between).state.TakesOver r s'

section Restarts

variable {c : Conversation}

/-- A run that ends in the epoch in which it began has not left it. -/
theorem epoch_throughout {events : List (Nat × Event)}
    (epoch : (c.run events).state.ledger.epoch = c.state.ledger.epoch) :
    c.Throughout (fun c' => c'.state.ledger.epoch = c.state.ledger.epoch) events := by
  rintro before after rfl
  have early := epoch_le_run c before
  have late := epoch_le_run (c.run before) after
  rw [← run_append, epoch] at late
  exact Nat.le_antisymm late early

/-- A conversation that comes to a session within an epoch has got it from a start, which was sent
since if none was under way. -/
theorem Bound.starts (h : c.Bound) {events : List (Nat × Event)}
    (epoch : (c.run events).state.ledger.epoch = c.state.ledger.epoch)
    (vacant : c.state.session = none) (free : c.state.inFlight.starting = false)
    (held : (c.run events).state.session ≠ none) :
    ∃ before now r s after, events = before ++ (now, .reply r.ticket.seq (.ok s)) :: after ∧
      r ∈ c.sent before ∧ r.call.operation = .start ∧ (c.run before).state.TakesOver r s := by
  rcases run_turns (P := fun c' => c'.state.session ≠ none) events held with
    always | ⟨before, now, event, after, rfl, without, since⟩
  · exact absurd vacant (always [] events rfl)
  · have bound := h.run before
    obtain ⟨s, new⟩ := Option.ne_none_iff_exists'.mp (since [] after rfl)
    have change := step_changes now (c.run before) event
    obtain ⟨r, rfl, pending, start, taken⟩ := change.session_of_vacant bound.identified
      bound.books.tracked bound.books.balanced (Classical.not_not.mp without) new
    refine ⟨before, now, r, s, after, rfl, ?_, start, taken⟩
    rcases mem_pending_run before pending with old | sent
    · -- the start would have been under way from the beginning
      have present : r.ticket.epoch = c.state.ledger.epoch :=
        (Ledger.isCurrent_iff.mp taken.1).1.trans (epoch_throughout epoch before _ rfl)
      have busy := h.books.balanced.busy_of_pending h.books.tracked old
        (Ledger.sameEpoch_iff.mpr present) start Operation.noConfusion
      rw [InFlight.get, free] at busy
      cases busy
    · exact sent

/-- Within an epoch another session is held only after a restart. -/
theorem Bound.restarts (h : c.Bound) {events : List (Nat × Event)}
    (epoch : (c.run events).state.ledger.epoch = c.state.ledger.epoch) {s s' : Session}
    (held : c.state.session = some s) (held' : (c.run events).state.session = some s')
    (other : s'.id ≠ s.id) : c.Restarts events s.id := by
  have gone : ¬ ∃ t, (c.run events).state.session = some t ∧ t.id = s.id := by
    rintro ⟨t, some, id⟩
    obtain rfl : s' = t := Option.some.inj (held'.symm.trans some)
    exact other id
  rcases run_turns (P := fun c' => ¬ ∃ t, c'.state.session = some t ∧ t.id = s.id) events gone with
    always | ⟨before, now, event, after, rfl, within, since⟩
  · exact absurd ⟨s, held, rfl⟩ (always [] events rfl)
  · obtain ⟨t, some, id⟩ := Classical.not_not.mp within
    have bound := h.run before
    have here : (c.run before).state.ledger.epoch = c.state.ledger.epoch :=
      epoch_throughout epoch before _ rfl
    have next : ((c.run before).step now event).1.state.ledger.epoch = c.state.ledger.epoch := by
      have split := epoch_throughout epoch (before ++ [(now, event)]) after (by simp)
      rwa [run_append] at split
    rw [run_append, run_cons] at epoch held'
    rcases (step_changes now (c.run before) event).session_of_held bound.identified
      bound.books.tracked bound.books.balanced (next.trans here.symm) some with
      ⟨t', kept, same⟩ | ⟨rfl, abandoned, vacant, free⟩
    · exact absurd ⟨t', kept, same.2.trans id⟩ (since [] after rfl)
    · have some' : (((c.run before).step now .clearError).1.run after).state.session ≠ none := by
        rw [held']
        exact Option.some_ne_none s'
      obtain ⟨between, now', r, new, rest, rfl, sent, start, taken⟩ :=
        (bound.step now .clearError).starts (epoch.trans next.symm) vacant free some'
      refine ⟨before, now, between, now', r, new, rest, ?_, ⟨t, some, id, abandoned⟩, vacant, sent,
        start, taken⟩
      rw [List.append_assoc]
      rfl

end Restarts

/-- What the sessions and the requests of a run are about. -/
structure Identifies (c : Conversation) (events : List (Nat × Event)) : Prop where
  board : ∀ s, (c.run events).state.session = some s → s.boardId = (c.run events).state.boardId
  starts : ∀ now event r, ((c.run events).step now event).2 = .waiting r →
    r.call.operation = .start → r.call.boardId = (c.run events).state.boardId
  asks : ∀ now event r, ((c.run events).step now event).2 = .waiting r →
    r.call.operation ≠ .start → ∃ s, (c.run events).state.session = some s ∧ r.call.IsAbout s
  applied : ∀ r ∈ (c.run events).pending, ∀ now reply,
    (∃ s, reply = .ok s ∧ (c.run events).state.TakesOver r s ∧
        ((c.run events).step now (.reply r.ticket.seq reply)).1.state.session = some s) ∨
      (∀ s, reply = .ok s → ¬ (c.run events).state.TakesOver r s) ∧
        ((c.run events).step now (.reply r.ticket.seq reply)).1.state.session =
          (c.run events).state.session
  fits : ∀ r ∈ (c.run events).pending, ∀ s, (c.run events).state.TakesOver r s →
    (c.run events).state.Fits r s
  restarts : ∀ before after, events = before ++ after →
    (c.run events).state.ledger.epoch = (c.run before).state.ledger.epoch →
      ∀ s s', (c.run before).state.session = some s → (c.run events).state.session = some s' →
        s'.id ≠ s.id → (c.run before).Restarts after s.id

/-- In every run, whatever sessions come back, the session that is held belongs to the board; every
request is about the board and the session that is held when it is sent; a reply that is taken over
is about the session that was asked for, which is still held; and within an epoch another session
is held only after an abandoned one has been given up by a retry, and a start has been answered. -/
theorem run_identifies (boardId : String) (interval : Period) (page : Page)
    (events : List (Nat × Event)) : (initial boardId interval page).Identifies events := by
  have bound := (bound_initial boardId interval page).run events
  refine ⟨bound.identified.board, ?_, ?_, ?_, ?_, ?_⟩
  · intro now event r sends start
    obtain ⟨_, asks, -⟩ := exists_asks_of_waiting sends
    exact (asks.vacant start).2
  · intro now event r sends later
    obtain ⟨_, asks, -⟩ := exists_asks_of_waiting sends
    exact asks.held later
  · intro r pending now reply
    exact (reply_takes bound.books.tracked pending now reply).session_cases
  · intro r pending s taken
    exact bound.identified.fits bound.books.tracked bound.books.balanced pending taken
  · intro before after split epoch s s' held held' other
    rw [split, run_append] at epoch held'
    exact ((bound_initial boardId interval page).run before).restarts epoch held held' other

/-- The session is abandoned, and a retry starts another one. -/
example :
    (opened.run [(0, .refresh), (0, .reply 2 (.ok (questioned .abandoned))), (0, .clearError),
      (0, .start), (0, .reply 3 (.ok { questioned .active with id := "t" }))]).state.session.map
        (·.id) = some "t" := by
  decide +kernel

end Conversation

end Dialogue
