import Dialogue.Proofs.Conversation.Accounting

/-! # What becomes of a confirmed conversation

A confirmed conversation stays confirmed, whatever happens but for a change of the board, unless an
answer was under way when the confirmation came. The reply to that answer is taken over without a
look at the session that is held, and can reopen the conversation. A refresh that would do so is
turned down. -/

namespace Dialogue.Conversation

/-- The event turns a running conversation to another board. -/
def TurnsAway (c : Conversation) : Event → Prop
  | .switchBoard boardId => c.state.shutDown = false ∧ c.state.boardId ≠ boardId
  | _ => False

/-- The event does not turn a conversation from the board. -/
def Stays (boardId : String) : Event → Prop
  | .switchBoard other => boardId = other
  | _ => True

/-- The run does not turn the conversation to another board. -/
def Remains (c : Conversation) : List (Nat × Event) → Prop
  | [] => True
  | (now, event) :: rest => ¬ c.TurnsAway event ∧ (c.step now event).1.Remains rest

/-- The event answers an answer of the present epoch with a session that is not confirmed. -/
def Reopens (c : Conversation) : Event → Prop
  | .reply seq (.ok s) =>
    s.status ≠ .confirmed ∧
      ∃ r ∈ c.unanswered .answer, r.ticket.seq = seq ∧ r.call.boardId = s.boardId ∧
        r.call.sessionId? = some s.id
  | _ => False

/-- The phase is confirmed as long as the session is the same. -/
theorem confirmed_of_session_eq {st st' : State} (confirmed : st.phase = .confirmed)
    (same : st'.session = st.session) : st'.phase = .confirmed := by
  rw [State.phase_eq_confirmed_iff] at confirmed ⊢
  rw [same]
  exact confirmed

theorem cleared_session_of_confirmed {st : State} (confirmed : st.phase = .confirmed) :
    (cleared st).session = st.session := by
  obtain ⟨s, held, status⟩ := State.phase_eq_confirmed_iff.mp confirmed
  have kept : (st.session.any fun s => s.status = .abandoned) = false := by
    rw [held, Option.any_some, status]
    rfl
  unfold cleared
  dsimp only
  rw [kept]
  rfl

theorem not_turnsAway {c : Conversation} {event : Event} (stays : Stays c.state.boardId event) :
    ¬ c.TurnsAway event := by
  intro away
  cases event with
  | switchBoard boardId => exact away.2 stays
  | _ => exact away

/-- Only a change of the board changes the board. -/
theorem Change.boardId {st st' : State} {pending pending' : List Request} {event : Event}
    {request : Option Request} (change : Change st pending event st' pending' request)
    (stays : Stays st.boardId event) : st'.boardId = st.boardId := by
  cases change with
  | nothing idle => rfl
  | asked kind asks => exact asks.boardId
  | selected running turn offered => rfl
  | cleared running free => exact cleared_boardId _
  | moved running other => exact absurd stays other
  | closed running => rfl
  | replied sent takes => exact takes.boardId

/-- A confirmed conversation sends no answer. -/
theorem Change.submitting {st st' : State} {pending pending' : List Request} {event : Event}
    {request : Option Request} (change : Change st pending event st' pending' request)
    (confirmed : st.phase = .confirmed) (settled : st.inFlight.submitting = false) :
    st'.inFlight.submitting = false := by
  cases change with
  | nothing idle => exact settled
  | @asked _ st' call _ kind asks =>
    have other : .answer ≠ call.operation := by
      rw [asks.refresh_of_confirmed confirmed]
      exact Operation.noConfusion
    show st'.inFlight.get .answer = false
    rw [asks.inFlight, InFlight.get_set, if_neg other]
    exact settled
  | selected running turn offered => exact settled
  | cleared running free =>
    rw [cleared_inFlight]
    exact settled
  | moved running other => rfl
  | closed running => rfl
  | replied sent takes =>
    have answer : Operation.answer ≠ .refresh := Operation.noConfusion
    exact takes.free answer settled

/-- A confirmed conversation asks for nothing but refreshes. -/
theorem Change.refresh_of_confirmed {st st' : State} {pending pending' : List Request}
    {event : Event} {r : Request} (change : Change st pending event st' pending' (some r))
    (confirmed : st.phase = .confirmed) : r.call.operation = .refresh := by
  cases change with
  | asked kind asks => exact asks.refresh_of_confirmed confirmed

section Confirmed

variable {c : Conversation}

/-- Only the reply to an answer can reopen a conversation. -/
theorem Books.not_reopens (h : c.Books) {r : Request} (sent : r ∈ c.pending)
    (other : r.call.operation ≠ .answer) (reply : Reply) :
    ¬ c.Reopens (.reply r.ticket.seq reply) := by
  intro reopens
  cases reply with
  | error error => exact reopens
  | ok s =>
    obtain ⟨-, r', member, numbered, -⟩ := reopens
    obtain ⟨sent', -, answer⟩ := mem_underWay.mp member
    obtain rfl := h.tracked.eq_of_seq sent' sent numbered
    exact other ((h.tracked.operation r' sent').symm.trans answer)

/-- The reply to anything but an answer keeps a conversation confirmed. -/
theorem Books.confirmed_of_takes (h : c.Books) (confirmed : c.state.phase = .confirmed)
    {r : Request} {reply : Reply} {st' : State} (sent : r ∈ c.pending)
    (takes : c.state.Takes r reply st') (other : r.call.operation ≠ .answer) :
    st'.phase = .confirmed := by
  obtain ⟨held, some, status⟩ := State.phase_eq_confirmed_iff.mp confirmed
  by_cases get : r.call.operation = .refresh
  · rcases (takes.of_refresh get).session with same | ⟨s, -, -, accepted, new⟩
    · exact confirmed_of_session_eq confirmed same
    · obtain ⟨held', some', supersedes⟩ := State.acceptsRefresh_iff.mp accepted
      obtain rfl : held = held' := Option.some.inj (some.symm.trans some')
      exact State.phase_eq_confirmed_iff.mpr ⟨s, new, supersedes.status status⟩
  · rcases (takes.of_change get).session with same | ⟨s, current, passed, new⟩
    · exact confirmed_of_session_eq confirmed same
    · cases kind : r.call.operation with
      | start =>
        -- a start is only under way while no session is held
        have member := h.mem_unanswered sent current
        rw [kind] at member
        have vacant := h.balanced.vacant (h.balanced.busy_of_mem Operation.noConfusion member)
        rw [some] at vacant
        cases vacant
      | refresh => exact absurd kind get
      | answer => exact absurd kind other
      | confirm =>
        exact State.phase_eq_confirmed_iff.mpr ⟨s, new, Call.confirmed_of_check passed kind⟩

/-- The reply to an answer keeps a conversation confirmed unless it reopens it. -/
theorem Books.confirmed_answer_iff (h : c.Books) (confirmed : c.state.phase = .confirmed)
    {r : Request} {reply : Reply} {st' : State} (sent : r ∈ c.pending)
    (takes : c.state.Takes r reply st') (answer : r.call.operation = .answer) :
    st'.phase = .confirmed ↔ ¬ c.Reopens (.reply r.ticket.seq reply) := by
  have change : r.call.operation ≠ .refresh := by
    rw [answer]
    exact Operation.noConfusion
  constructor
  · intro stays reopens
    cases reply with
    | error error => exact reopens
    | ok s =>
      obtain ⟨unconfirmed, r', member, numbered, board, id⟩ := reopens
      obtain rfl := h.tracked.eq_of_seq (mem_underWay.mp member).1 sent numbered
      have current := h.balanced.current .answer Operation.noConfusion r' member
      have new := (takes.of_change change).session_of_check current
        (Call.check_of_answer answer board id)
      obtain ⟨s', some, status⟩ := State.phase_eq_confirmed_iff.mp stays
      obtain rfl : s = s' := Option.some.inj (new.symm.trans some)
      exact unconfirmed status
  · intro closed
    rcases (takes.of_change change).session with same | ⟨s, current, passed, new⟩
    · exact confirmed_of_session_eq confirmed same
    · obtain ⟨rfl, board, id⟩ := Call.check_eq_ok passed change
      have member := h.mem_unanswered sent current
      rw [answer] at member
      obtain ⟨held, -, -, sessionId⟩ :=
        h.balanced.held .answer Operation.noConfusion Operation.noConfusion r member
      refine State.phase_eq_confirmed_iff.mpr ⟨s, new, ?_⟩
      apply Decidable.byContradiction
      intro unconfirmed
      refine closed ⟨unconfirmed, r, member, rfl, board.symm, ?_⟩
      rw [sessionId, id held.id sessionId]

/-- An event keeps a conversation confirmed unless it turns away or reopens it. -/
theorem Books.confirmed_change_iff (h : c.Books) (confirmed : c.state.phase = .confirmed)
    {event : Event} {st' : State} {pending' : List Request} {request : Option Request}
    (change : Change c.state c.pending event st' pending' request) :
    st'.phase = .confirmed ↔ ¬ c.TurnsAway event ∧ ¬ c.Reopens event := by
  cases change with
  | nothing idle =>
    refine ⟨fun _ => ⟨?_, ?_⟩, fun _ => confirmed⟩
    · intro away
      cases event with
      | switchBoard boardId =>
        rcases idle with ended | same
        · rw [away.1] at ended
          cases ended
        · exact away.2 same
      | _ => exact away
    · intro reopens
      cases event with
      | reply seq reply =>
        cases reply with
        | error error => exact reopens
        | ok s =>
          obtain ⟨-, r, member, numbered, -⟩ := reopens
          exact idle r (mem_underWay.mp member).1 numbered
      | _ => exact reopens
  | asked kind asks =>
    refine ⟨fun _ => ?_, fun _ => confirmed_of_session_eq confirmed asks.session⟩
    cases event with
    | switchBoard boardId => cases kind
    | reply seq reply => cases kind
    | _ => exact ⟨id, id⟩
  | selected running turn offered =>
    exact ⟨fun _ => ⟨id, id⟩, fun _ => confirmed_of_session_eq confirmed rfl⟩
  | cleared running free =>
    exact ⟨fun _ => ⟨id, id⟩, fun _ =>
      confirmed_of_session_eq confirmed (cleared_session_of_confirmed confirmed)⟩
  | moved running other =>
    refine ⟨fun stays => ?_, fun ⟨stays, _⟩ => absurd ⟨running, other⟩ stays⟩
    obtain ⟨s, some, -⟩ := State.phase_eq_confirmed_iff.mp stays
    cases some
  | closed running =>
    exact ⟨fun _ => ⟨id, id⟩, fun _ => confirmed_of_session_eq confirmed rfl⟩
  | @replied r reply st' sent takes =>
    by_cases answer : r.call.operation = .answer
    · rw [h.confirmed_answer_iff confirmed sent takes answer]
      exact ⟨fun closed => ⟨id, closed⟩, fun closed => closed.2⟩
    · exact ⟨fun _ => ⟨id, h.not_reopens sent answer reply⟩,
        fun _ => h.confirmed_of_takes confirmed sent takes answer⟩

/-- Some event can reopen a conversation just when an answer is under way. -/
theorem Books.reopens_iff (h : c.Books) :
    (∃ event, c.Reopens event) ↔ c.state.inFlight.submitting = true := by
  constructor
  · rintro ⟨event, reopens⟩
    cases event with
    | reply seq reply =>
      cases reply with
      | error error => exact absurd reopens id
      | ok s =>
        obtain ⟨-, r, member, -⟩ := reopens
        exact h.balanced.busy_of_mem Operation.noConfusion member
    | _ => exact absurd reopens id
  · intro busy
    have answer : Operation.answer ≠ .refresh := Operation.noConfusion
    obtain ⟨r, only⟩ := (h.busy_iff answer).mp busy
    have member : r ∈ c.unanswered .answer := by
      rw [only]
      exact List.mem_singleton_self r
    obtain ⟨s, -, board, id⟩ :=
      h.balanced.held .answer answer Operation.noConfusion r member
    exact ⟨.reply r.ticket.seq (.ok { s with status := .active }), Status.noConfusion, r, member,
      rfl, board, id⟩

/-- A confirmed conversation with no answer under way stays confirmed as long as it keeps its board,
and asks for nothing but refreshes. -/
theorem Books.final (events : List (Nat × Event)) :
    ∀ {c : Conversation}, c.Books → c.state.phase = .confirmed →
      c.state.inFlight.submitting = false → c.Remains events →
      (c.run events).state.phase = .confirmed ∧
        ∀ r ∈ c.sent events, r.call.operation = .refresh := by
  induction events with
  | nil => exact fun _ confirmed _ _ => ⟨confirmed, fun _ none => nomatch none⟩
  | cons first rest ih =>
    intro c h confirmed settled remains
    obtain ⟨now, event⟩ := first
    obtain ⟨stays, remains⟩ := remains
    have change := step_changes now c event
    have closed : ¬ c.Reopens event := by
      intro reopens
      rw [h.reopens_iff.mp ⟨event, reopens⟩] at settled
      cases settled
    obtain ⟨later, only⟩ := ih (h.step now event)
      ((h.confirmed_change_iff confirmed change).mpr ⟨stays, closed⟩)
      (change.submitting confirmed settled) remains
    refine ⟨later, ?_⟩
    intro r member
    rcases List.mem_append.mp member with here | there
    · rw [Option.mem_toList.mp here] at change
      exact change.refresh_of_confirmed confirmed
    · exact only r there

/-- Events that do not turn from the board keep a run on it. -/
theorem remains_of_stays (events : List (Nat × Event)) :
    ∀ {c : Conversation}, (∀ e ∈ events, Stays c.state.boardId e.2) → c.Remains events := by
  induction events with
  | nil => exact fun _ => trivial
  | cons first rest ih =>
    intro c stays
    obtain ⟨now, event⟩ := first
    have change := step_changes now c event
    have here : Stays c.state.boardId event := stays (now, event) (List.mem_cons_self ..)
    refine ⟨not_turnsAway here, ih ?_⟩
    intro e later
    rw [change.boardId here]
    exact stays e (List.mem_cons_of_mem _ later)

/-- With no answer under way, a confirmed conversation stays so as long as it keeps its board. -/
theorem Books.confirmed_run (events : List (Nat × Event)) {c : Conversation} (h : c.Books)
    (confirmed : c.state.phase = .confirmed) (settled : c.state.inFlight.submitting = false)
    (stays : ∀ e ∈ events, Stays c.state.boardId e.2) :
    (c.run events).state.phase = .confirmed :=
  (Books.final events h confirmed settled (remains_of_stays events stays)).1

end Confirmed

/-- What can become of a confirmed conversation: it stays so unless it is turned to another board or
a reply reopens it. A reply can do so just as long as an answer is under way; with none under way
the conversation stays confirmed for good. -/
theorem Reachable.confirmed_iff {c : Conversation} (reached : c.Reachable)
    (confirmed : c.state.phase = .confirmed) :
    (∀ now event,
      (c.step now event).1.state.phase = .confirmed ↔ ¬ c.TurnsAway event ∧ ¬ c.Reopens event) ∧
    ((∃ event, c.Reopens event) ↔ c.state.inFlight.submitting = true) ∧
    (c.state.inFlight.submitting = false →
      ∀ later : List (Nat × Event), (∀ e ∈ later, Stays c.state.boardId e.2) →
        (c.run later).state.phase = .confirmed) := by
  have books := reached.books
  refine ⟨?_, books.reopens_iff, ?_⟩
  · intro now event
    exact books.confirmed_change_iff confirmed (step_changes now c event)
  · intro settled later stays
    exact Books.confirmed_run later books confirmed settled stays

/-- An answer is sent, and before its reply a refresh finds the session confirmed. -/
def overlapped : Conversation :=
  opened.run [(0, .submitText "Growth"), (0, .refresh), (0, .reply 3 (.ok (questioned .confirmed)))]

theorem overlapped_reachable : overlapped.Reachable :=
  ⟨"b", usual, .start .alwaysActive true, opening ++ _, run_append _ opening _⟩

theorem overlapped_confirmed : overlapped.state.phase = .confirmed := by decide +kernel

theorem overlapped_reopens : ∃ event, overlapped.Reopens event := by
  obtain ⟨-, reopens, -⟩ := overlapped_reachable.confirmed_iff overlapped_confirmed
  exact reopens.mpr (by decide +kernel)

/-- The late reply to the answer reopens the conversation. -/
theorem not_confirmed_forever :
    ¬ ∀ c : Conversation, c.Reachable → c.state.phase = .confirmed →
      ∀ now event, ¬ c.TurnsAway event → (c.step now event).1.state.phase = .confirmed := by
  intro forever
  have stays := forever overlapped overlapped_reachable overlapped_confirmed 0
    (.reply 2 (.ok (questioned .active))) id
  have reopened : (overlapped.step 0 (.reply 2 (.ok (questioned .active)))).1.state.phase =
      .awaitingUserAnswer := by decide +kernel
  rw [reopened] at stays
  cases stays

end Dialogue.Conversation
