import Dialogue.Proofs.Conversation.Accounting

/-! # What a refresh can change

The reply to a refresh is taken over when the refresh is of the present epoch, no request was sent
after it, and the session in the reply supersedes the one that is held. In every other case the
reply leaves everything as it was but for the marks of the refreshes themselves.

What was sent after a refresh is read off from the requests that the run has sent; that the ledger,
which keeps only the newest number of each kind, knows as much is the invariant `Recorded`. -/

namespace Dialogue

namespace State

/-- Nothing has changed but the marks of the refreshes. -/
structure Untouched (st st' : State) : Prop where
  marks : st' = { st with
    refreshes := st'.refreshes
    inFlight := { st.inFlight with refreshing := st'.inFlight.refreshing }
    reconnecting := st'.reconnecting }
  phase : st'.phase = st.phase
  prompt : st'.prompt? = st.prompt?
  draftGoal : st'.view.draftGoal = st.view.draftGoal

variable {st st' : State} {r : Request} {reply : Reply}

/-- The marks of the refreshes do not show in the phase, the prompt or the draft goal. -/
theorem untouched_of_marks (marks : st' = { st with
    refreshes := st'.refreshes
    inFlight := { st.inFlight with refreshing := st'.inFlight.refreshing }
    reconnecting := st'.reconnecting }) : st.Untouched st' := by
  refine ⟨marks, ?_, ?_, ?_⟩
  · rw [marks]
    rfl
  · rw [marks]
    rfl
  · rw [marks]
    rfl

/-- A current and accepted session is taken over. -/
theorem TakesRefresh.session_of_accepted (h : st.TakesRefresh r reply st')
    (current : st.ledger.isCurrent r.ticket = true) {s : Session} (ok : reply = .ok s)
    (accepted : st.acceptsRefresh s = true) : st'.session = some s := by
  cases h with
  | overtaken late =>
    rw [late] at current
    cases current
  | missed current' => cases ok
  | rejected current' refused =>
    obtain rfl := Except.ok.inj ok
    rw [accepted] at refused
    cases refused
  | refreshed current' accepted' =>
    obtain rfl := Except.ok.inj ok
    exact adopt_session _ _ _

/-- Without an accepted session the reply to a refresh only touches the marks of the refreshes. -/
theorem TakesRefresh.untouched (h : st.TakesRefresh r reply st')
    (refused : ∀ s, st.ledger.isCurrent r.ticket = true → reply = .ok s →
      st.acceptsRefresh s = false) : st.Untouched st' := by
  apply untouched_of_marks
  cases h with
  | overtaken late =>
    unfold finishRefresh
    split <;> rfl
  | missed current =>
    unfold finishRefresh
    split <;> rfl
  | rejected current refused' =>
    unfold finishRefresh
    split <;> rfl
  | refreshed current accepted =>
    rw [refused _ current rfl] at accepted
    cases accepted

theorem TakesRefresh.error (h : st.TakesRefresh r reply st') : st'.error = st.error := by
  cases h with
  | overtaken late => rw [finishRefresh_eq]
  | missed current => rw [finishRefresh_eq]
  | rejected current refused => rw [finishRefresh_eq]
  | refreshed current accepted => rw [adopt_error, finishRefresh_eq]

/-- Of the marks, the one that reports a failure is set by a current failure. -/
theorem TakesRefresh.reconnecting_of_error (h : st.TakesRefresh r reply st')
    (current : st.ledger.isCurrent r.ticket = true) {error : ServiceError}
    (failed : reply = .error error) : st'.reconnecting = true := by
  cases h with
  | overtaken late =>
    rw [late] at current
    cases current
  | missed current' => rfl
  | rejected current' refused => cases failed
  | refreshed current' accepted => cases failed

/-- Nothing else than a current failure or an accepted session touches that mark. -/
theorem TakesRefresh.reconnecting (h : st.TakesRefresh r reply st')
    (fine : ∀ error, st.ledger.isCurrent r.ticket = true → reply ≠ .error error)
    (refused : ∀ s, st.ledger.isCurrent r.ticket = true → reply = .ok s →
      st.acceptsRefresh s = false) : st'.reconnecting = st.reconnecting := by
  cases h with
  | overtaken late => rw [finishRefresh_eq]
  | missed current => exact absurd rfl (fine _ current)
  | rejected current refused' => rw [finishRefresh_eq]
  | refreshed current accepted =>
    rw [refused _ current rfl] at accepted
    cases accepted

end State

namespace Conversation

/-- What the ledger knows of the requests sent so far: a refresh is current just when it is of the
present epoch and the last of all that were sent. -/
structure Recorded (st : State) (pending past : List Request) : Prop where
  counted : st.ledger.Counted
  covers : ∀ r ∈ past, st.ledger.Covers r.ticket
  newest : ∀ r ∈ past, r.ticket.operation = .refresh →
    (st.ledger.isCurrent r.ticket = true ↔
      st.ledger.sameEpoch r.ticket = true ∧ past.getLast? = some r)
  pending : ∀ r ∈ pending, r ∈ past

theorem recorded_initial (boardId : String) : Recorded (.initial boardId) [] [] where
  counted := Ledger.counted_empty
  covers := fun _ none => nomatch none
  newest := fun _ none => nomatch none
  pending := fun _ none => nomatch none

section Recorded

variable {st st' : State} {pending pending' past : List Request}

theorem Recorded.of_same (h : Recorded st pending past) (ledger : st'.ledger = st.ledger)
    (fewer : ∀ r ∈ pending', r ∈ past) : Recorded st' pending' past where
  counted := by rw [ledger]; exact h.counted
  covers := by rw [ledger]; exact h.covers
  newest := by rw [ledger]; exact h.newest
  pending := fewer

theorem Recorded.of_invalidateAll (h : Recorded st pending past)
    (ledger : st'.ledger = st.ledger.invalidateAll) (fewer : ∀ r ∈ pending', r ∈ past) :
    Recorded st' pending' past where
  counted := by rw [ledger]; exact h.counted.invalidateAll
  covers := by
    rw [ledger]
    exact fun r member => (h.covers r member).invalidateAll
  newest := by
    intro r member _
    have covers := h.covers r member
    rw [ledger, Ledger.isCurrent_invalidateAll covers, Ledger.sameEpoch_invalidateAll covers]
    constructor
    · intro never
      cases never
    · rintro ⟨never, -⟩
      cases never
  pending := fewer

/-- The new request is the last one, and if it is a refresh then the current one. -/
theorem Recorded.of_issue (h : Recorded st pending past) (call : Call) (poll : Option Nat)
    (ledger : st'.ledger = st.ledger.issue call.operation)
    (fewer : ∀ r ∈ pending', r ∈ past ++ [⟨st.ledger.nextTicket call.operation, call, poll⟩]) :
    Recorded st' pending' (past ++ [⟨st.ledger.nextTicket call.operation, call, poll⟩]) where
  counted := by rw [ledger]; exact h.counted.issue _
  covers := by
    rw [ledger]
    intro r member
    rcases List.mem_append.mp member with old | new
    · exact (h.covers r old).issue _
    · rw [List.mem_singleton.mp new]
      exact Ledger.covers_nextTicket _ _
  newest := by
    rw [ledger, List.getLast?_concat]
    intro r member refresh
    rcases List.mem_append.mp member with old | new
    · rw [Ledger.isCurrent_issue_iff (h.covers r old)]
      constructor
      · rintro ⟨-, other, -⟩
        exact absurd refresh other
      · rintro ⟨-, last⟩
        have reached : r.ticket.seq ≤ st.ledger.issued := (h.covers r old).seq
        rw [← Option.some.inj last] at reached
        exact absurd reached (Nat.not_succ_le_self _)
    · rw [List.mem_singleton.mp new]
      constructor
      · exact fun _ => ⟨Ledger.sameEpoch_iff.mpr rfl, rfl⟩
      · exact fun _ => Ledger.isCurrent_nextTicket h.counted _
  pending := fewer

end Recorded

/-- An event adds the request that it sends to the record. -/
theorem Recorded.step {c : Conversation} {past : List Request}
    (h : Recorded c.state c.pending past) (now : Nat) (event : Event) :
    Recorded (c.step now event).1.state (c.step now event).1.pending
      (past ++ (c.step now event).2.request?.toList) := by
  have change := step_changes now c event
  have fewer : ∀ r ∈ (c.step now event).1.pending,
      r ∈ past ++ (c.step now event).2.request?.toList := by
    intro r member
    rcases change.mem_pending member with old | new
    · exact List.mem_append_left _ (h.pending r old)
    · exact List.mem_append_right _ new
  rcases change.ledger with ⟨silent, same | invalid⟩ | ⟨call, poll, sends, issued⟩
  · rw [silent, Option.toList_none, List.append_nil] at fewer ⊢
    exact h.of_same same fewer
  · rw [silent, Option.toList_none, List.append_nil] at fewer ⊢
    exact h.of_invalidateAll invalid fewer
  · rw [sends] at fewer ⊢
    exact h.of_issue call poll issued fewer

theorem Recorded.run (events : List (Nat × Event)) :
    ∀ {c : Conversation} {past : List Request}, Recorded c.state c.pending past →
      Recorded (c.run events).state (c.run events).pending (past ++ c.sent events) := by
  induction events with
  | nil =>
    intro c past h
    rw [sent, List.append_nil]
    exact h
  | cons first rest ih =>
    intro c past h
    obtain ⟨now, event⟩ := first
    rw [sent, ← List.append_assoc]
    exact ih (h.step now event)

/-- The epoch has not changed since the run sent the request, and nothing was sent after it. -/
def Newest (c : Conversation) (events : List (Nat × Event)) (r : Request) : Prop :=
  ∃ before now event after, events = before ++ (now, event) :: after ∧
    ((c.run before).step now event).2 = .waiting r ∧
    (c.run events).state.ledger.epoch = (c.run before).state.ledger.epoch ∧
    ((c.run before).step now event).1.sent after = []

/-- What the ledger and the record of a run tell of its newest request. -/
theorem newest_iff {c : Conversation} {events : List (Nat × Event)} {r : Request} :
    c.Newest events r ↔
      (c.run events).state.ledger.sameEpoch r.ticket = true ∧
        (c.sent events).getLast? = some r := by
  rw [Ledger.sameEpoch_iff]
  constructor
  · rintro ⟨before, now, event, after, split, sends, epoch, silent⟩
    refine ⟨(epoch_of_waiting sends).trans epoch.symm, ?_⟩
    rw [split, sent_append, sent, silent, List.append_nil, request?_eq_some.mpr sends]
    exact List.getLast?_concat
  · rintro ⟨epoch, last⟩
    obtain ⟨before, now, event, after, split, sends, silent⟩ := exists_of_getLast?_sent events last
    exact ⟨before, now, event, after, split, sends, epoch.symm.trans (epoch_of_waiting sends),
      silent⟩

/-- The reply to a request replaces the session `old` by `s`. -/
structure Replaces (c : Conversation) (events : List (Nat × Event)) (r : Request) (reply : Reply)
    (old s : Session) : Prop where
  newest : c.Newest events r
  ok : reply = .ok s
  held : (c.run events).state.session = some old
  supersedes : s.Supersedes old

/-- What the reply to a refresh makes of the state to which the events have led. -/
structure Refreshes (c : Conversation) (events : List (Nat × Event)) (r : Request) (reply : Reply)
    (st' : State) : Prop where
  replaced : ∀ old s, c.Replaces events r reply old s → st'.session = some s
  changed : st'.session ≠ (c.run events).state.session →
    ∃ old s, c.Replaces events r reply old s ∧ st'.session = some s
  untouched : (¬ ∃ old s, c.Replaces events r reply old s) → (c.run events).state.Untouched st'
  missed : c.Newest events r → ∀ error, reply = .error error → st'.reconnecting = true
  reconnecting : (¬ ∃ old s, c.Replaces events r reply old s) →
    (¬ ∃ error, c.Newest events r ∧ reply = .error error) →
      st'.reconnecting = (c.run events).state.reconnecting
  counted : (c.run events).state.ledger.sameEpoch r.ticket = true →
    st'.refreshes + 1 = (c.run events).state.refreshes
  uncounted : (c.run events).state.ledger.sameEpoch r.ticket = false →
    st'.refreshes = (c.run events).state.refreshes ∧
      st'.inFlight.refreshing = (c.run events).state.inFlight.refreshing
  refreshing : st'.inFlight.refreshing = decide (0 < st'.refreshes)
  error : st'.error = (c.run events).state.error

section Refreshes

variable {c : Conversation} {events : List (Nat × Event)} {r : Request} {reply : Reply}

/-- The reply to a refresh replaces the session when the ledger and the state let it. -/
theorem exists_replaces_iff
    (current : (c.run events).state.ledger.isCurrent r.ticket = true ↔ c.Newest events r) :
    (∃ old s, c.Replaces events r reply old s) ↔
      ∃ s, (c.run events).state.ledger.isCurrent r.ticket = true ∧ reply = .ok s ∧
        (c.run events).state.acceptsRefresh s = true := by
  constructor
  · rintro ⟨old, s, newest, ok, held, supersedes⟩
    exact ⟨s, current.mpr newest, ok, State.acceptsRefresh_iff.mpr ⟨old, held, supersedes⟩⟩
  · rintro ⟨s, isCurrent, ok, accepted⟩
    obtain ⟨old, held, supersedes⟩ := State.acceptsRefresh_iff.mp accepted
    exact ⟨old, s, current.mp isCurrent, ok, held, supersedes⟩

theorem refreshes_of_takes (books : (c.run events).Books)
    (current : (c.run events).state.ledger.isCurrent r.ticket = true ↔ c.Newest events r)
    (pending : r ∈ (c.run events).pending) (get : r.call.operation = .refresh) {st' : State}
    (takes : (c.run events).state.TakesRefresh r reply st') : c.Refreshes events r reply st' := by
  obtain ⟨flags, count⟩ := takes.finishes
  have refused : (¬ ∃ old s, c.Replaces events r reply old s) →
      ∀ s, (c.run events).state.ledger.isCurrent r.ticket = true → reply = .ok s →
        (c.run events).state.acceptsRefresh s = false := by
    intro kept s isCurrent ok
    rw [exists_replaces_iff current] at kept
    exact Bool.eq_false_iff.mpr fun accepted => kept ⟨s, isCurrent, ok, accepted⟩
  constructor
  · rintro old s ⟨newest, ok, held, supersedes⟩
    exact takes.session_of_accepted (current.mpr newest) ok
      (State.acceptsRefresh_iff.mpr ⟨old, held, supersedes⟩)
  · intro new
    rcases takes.session with same | ⟨s, isCurrent, ok, accepted, some⟩
    · exact absurd same new
    · obtain ⟨old, held, supersedes⟩ := State.acceptsRefresh_iff.mp accepted
      exact ⟨old, s, ⟨current.mp isCurrent, ok, held, supersedes⟩, some⟩
  · intro kept
    exact takes.untouched (refused kept)
  · intro newest error failed
    exact takes.reconnecting_of_error (current.mpr newest) failed
  · intro kept fine
    refine takes.reconnecting (fun error isCurrent failed => ?_) (refused kept)
    exact fine ⟨error, current.mp isCurrent, failed⟩
  · intro epoch
    rw [count]
    have refresh := (books.tracked.operation r pending).trans get
    exact books.unsaturated pending refresh epoch
  · intro epoch
    rw [flags, count, State.finishRefresh, epoch]
    exact ⟨rfl, rfl⟩
  · rw [flags, count]
    exact State.finishRefresh_refreshing _ _ books.balanced.refreshing
  · exact takes.error

end Refreshes

/-- In every run, the reply to a refresh that is under way replaces the session when nothing is
newer than the refresh, and otherwise touches only the marks of the refreshes. -/
theorem run_refreshes (boardId : String) (interval : Period) (page : Page)
    (events : List (Nat × Event)) {r : Request}
    (pending : r ∈ ((initial boardId interval page).run events).pending)
    (get : r.call.operation = .refresh) (now : Nat) (reply : Reply) :
    (initial boardId interval page).Refreshes events r reply
      (((initial boardId interval page).run events).step now
        (.reply r.ticket.seq reply)).1.state := by
  have books := (books_initial boardId interval page).run events
  have record : Recorded (initial boardId interval page).state
      (initial boardId interval page).pending [] := recorded_initial boardId
  have newest := (record.run events).newest r ((record.run events).pending r pending)
    ((books.tracked.operation r pending).trans get)
  rw [List.nil_append, ← newest_iff] at newest
  have takes := reply_takes books.tracked pending now reply
  exact refreshes_of_takes books newest pending get (takes.of_refresh get)

/-- A refresh of the first question. -/
def refetched : Request := ⟨⟨.refresh, 2, 0⟩, .get "b" "s", none⟩

theorem refetched_refreshes :
    refetched ∈ ((initial "b" usual (.start .alwaysActive true)).run
      (opening ++ [(0, .refresh)])).pending ∧
    ∀ now reply, (initial "b" usual (.start .alwaysActive true)).Refreshes
      (opening ++ [(0, .refresh)]) refetched reply
      (((initial "b" usual (.start .alwaysActive true)).run
        (opening ++ [(0, .refresh)])).step now (.reply refetched.ticket.seq reply)).1.state := by
  have pending : refetched ∈ ((initial "b" usual (.start .alwaysActive true)).run
      (opening ++ [(0, .refresh)])).pending := by decide +kernel
  exact ⟨pending, run_refreshes _ _ _ _ pending rfl⟩

end Conversation

end Dialogue
