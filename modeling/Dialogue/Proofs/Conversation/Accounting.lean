import Dialogue.Proofs.Conversation.Requests

/-! # The account of the requests under way

The flags and the count of a state are an exact account of the requests of the present epoch that
have not been answered: at most one that can change the session, which is then current, and any
number of refreshes. No reply, whenever it comes, and no change of the board in between puts the
account wrong. -/

namespace Dialogue.Conversation

/-- The requests of a kind and of the present epoch among those under way. -/
def underWay (st : State) (pending : List Request) (op : Operation) : List Request :=
  pending.filter fun r => st.ledger.sameEpoch r.ticket && r.ticket.operation = op

section UnderWay

variable {st st' : State} {pending : List Request} {op : Operation} {r : Request}

theorem mem_underWay :
    r ∈ underWay st pending op ↔
      r ∈ pending ∧ st.ledger.sameEpoch r.ticket = true ∧ r.ticket.operation = op := by
  rw [underWay, List.mem_filter, Bool.and_eq_true, decide_eq_true_iff]

theorem underWay_congr (epoch : st'.ledger.epoch = st.ledger.epoch) (pending : List Request)
    (op : Operation) : underWay st' pending op = underWay st pending op := by
  unfold underWay Ledger.sameEpoch
  rw [epoch]

theorem underWay_concat (epoch : st.ledger.sameEpoch r.ticket = true) :
    underWay st (pending ++ [r]) op =
      underWay st pending op ++ if r.ticket.operation = op then [r] else [] := by
  unfold underWay
  rw [List.filter_append]
  congr 1
  by_cases kind : r.ticket.operation = op
  · rw [if_pos kind]
    exact List.filter_cons_of_pos (by rw [epoch, Bool.true_and, decide_eq_true kind])
  · rw [if_neg kind]
    exact List.filter_cons_of_neg (by rw [epoch, Bool.true_and, decide_eq_false kind]; decide)

/-- An answered request is taken off the account of its kind. -/
theorem length_underWay_erase (member : r ∈ underWay st pending op) :
    (underWay st (pending.erase r) op).length = (underWay st pending op).length - 1 := by
  unfold underWay
  rw [← List.erase_filter]
  exact List.length_erase_of_mem member

theorem underWay_erase (stranger : r ∉ underWay st pending op) :
    underWay st (pending.erase r) op = underWay st pending op := by
  unfold underWay
  rw [← List.erase_filter]
  exact List.erase_of_not_mem stranger

/-- In a new epoch no request is under way. -/
theorem underWay_invalidateAll (h : Tracked st pending)
    (ledger : st'.ledger = st.ledger.invalidateAll) : underWay st' pending op = [] := by
  rw [List.eq_nil_iff_forall_not_mem]
  intro r member
  obtain ⟨sent, epoch, -⟩ := mem_underWay.mp member
  rw [ledger, Ledger.sameEpoch_invalidateAll (h.covers r sent)] at epoch
  cases epoch

end UnderWay

/-- The flags and the count of the state agree with the requests under way. -/
structure Balanced (st : State) (pending : List Request) : Prop where
  busy : ∀ op, op ≠ .refresh → (underWay st pending op).length = (st.inFlight.get op).toNat
  current : ∀ op, op ≠ .refresh → ∀ r ∈ underWay st pending op,
    st.ledger.isCurrent r.ticket = true
  alone : ∀ op other, op ≠ .refresh → other ≠ .refresh → st.inFlight.get op = true →
    st.inFlight.get other = true → op = other
  refreshes : st.refreshes = (underWay st pending .refresh).length
  refreshing : st.inFlight.refreshing = decide (0 < st.refreshes)
  vacant : st.inFlight.starting = true → st.session = none
  held : ∀ op, op ≠ .refresh → op ≠ .start → ∀ r ∈ underWay st pending op,
    ∃ s, st.session = some s ∧ r.call.boardId = s.boardId ∧ r.call.sessionId? = some s.id

section Balanced

variable {st st' : State} {pending pending' : List Request}

/-- A flag that is not set has no request. -/
theorem Balanced.underWay_eq_nil (h : Balanced st pending) {op : Operation} (change : op ≠ .refresh)
    (free : st.inFlight.get op = false) : underWay st pending op = [] := by
  have none := h.busy op change
  rw [free, Bool.toNat_false] at none
  exact List.eq_nil_of_length_eq_zero none

/-- A request under way has set its flag. -/
theorem Balanced.busy_of_mem (h : Balanced st pending) {op : Operation} (change : op ≠ .refresh)
    {r : Request} (member : r ∈ underWay st pending op) : st.inFlight.get op = true := by
  cases free : st.inFlight.get op with
  | true => rfl
  | false =>
    rw [h.underWay_eq_nil change free] at member
    cases member

/-- A request of the present epoch has set the flag of its kind. -/
theorem Balanced.busy_of_pending (h : Balanced st pending) (tracked : Tracked st pending)
    {r : Request} (sent : r ∈ pending) (epoch : st.ledger.sameEpoch r.ticket = true)
    {op : Operation} (kind : r.call.operation = op) (change : op ≠ .refresh) :
    st.inFlight.get op = true :=
  h.busy_of_mem change (mem_underWay.mpr ⟨sent, epoch, (tracked.operation r sent).trans kind⟩)

/-- While one request that can change the session is under way, no other one is. -/
theorem Balanced.free_of_busy (h : Balanced st pending) {op other : Operation}
    (change : op ≠ .refresh) (busy : st.inFlight.get op = true) (change' : other ≠ .refresh)
    (different : other ≠ op) : st.inFlight.get other = false := by
  rw [← Bool.not_eq_true]
  exact fun busy' => different (h.alone other op change' change busy' busy)

/-- With no request under way but refreshes, only these are to be counted. -/
theorem Balanced.of_quiet
    (quiet : ∀ op, op ≠ .refresh → st.inFlight.get op = false ∧ underWay st pending op = [])
    (refreshes : st.refreshes = (underWay st pending .refresh).length)
    (refreshing : st.inFlight.refreshing = decide (0 < st.refreshes)) : Balanced st pending where
  busy := by
    intro op change
    rw [(quiet op change).1, (quiet op change).2]
    rfl
  current := by
    intro op change r member
    rw [(quiet op change).2] at member
    cases member
  alone := by
    intro op other change _ busy
    rw [(quiet op change).1] at busy
    cases busy
  refreshes := refreshes
  refreshing := refreshing
  vacant := by
    intro busy
    have free := (quiet .start Operation.noConfusion).1
    rw [InFlight.get, busy] at free
    cases free
  held := by
    intro op change _ r member
    rw [(quiet op change).2] at member
    cases member

/-- With one request under way besides refreshes, that request and the refreshes are to be
counted. -/
theorem Balanced.of_single {r : Request} {kind : Operation}
    (only : ∀ op, op ≠ .refresh → underWay st pending op = if kind = op then [r] else [])
    (flags : ∀ op, op ≠ .refresh → st.inFlight.get op = decide (kind = op))
    (current : st.ledger.isCurrent r.ticket = true)
    (vacant : kind = .start → st.session = none)
    (held : kind ≠ .start → ∃ s, st.session = some s ∧ r.call.boardId = s.boardId ∧
      r.call.sessionId? = some s.id)
    (refreshes : st.refreshes = (underWay st pending .refresh).length)
    (refreshing : st.inFlight.refreshing = decide (0 < st.refreshes)) : Balanced st pending where
  busy := by
    intro op change
    rw [only op change, flags op change]
    by_cases same : kind = op
    · simp [same]
    · simp [same]
  current := by
    intro op change r' member
    rw [only op change] at member
    split at member
    · rw [List.mem_singleton.mp member]
      exact current
    · cases member
  alone := by
    intro op other change change' busy busy'
    rw [flags op change, decide_eq_true_iff] at busy
    rw [flags other change', decide_eq_true_iff] at busy'
    exact busy.symm.trans busy'
  refreshes := refreshes
  refreshing := refreshing
  vacant := by
    intro busy
    have start := (flags .start Operation.noConfusion).symm.trans busy
    exact vacant (of_decide_eq_true start)
  held := by
    intro op change later r' member
    rw [only op change] at member
    split at member
    · rename_i same
      rw [List.mem_singleton.mp member]
      exact held fun start => later (same.symm.trans start)
    · cases member

/-- As long as the other requests and their flags stay what they were, and the session keeps its
ids, only the refreshes are to be counted. -/
theorem Balanced.of_others (h : Balanced st pending)
    (others : ∀ op, op ≠ .refresh → underWay st' pending' op = underWay st pending op)
    (flags : ∀ op, op ≠ .refresh → st'.inFlight.get op = st.inFlight.get op)
    (current : ∀ op, op ≠ .refresh → ∀ r ∈ underWay st pending op,
      st'.ledger.isCurrent r.ticket = true)
    (vacant : st.session = none → st'.session = none)
    (held : ∀ s, st.session = some s →
      ∃ s', st'.session = some s' ∧ s'.boardId = s.boardId ∧ s'.id = s.id)
    (refreshes : st'.refreshes = (underWay st' pending' .refresh).length)
    (refreshing : st'.inFlight.refreshing = decide (0 < st'.refreshes)) :
    Balanced st' pending' where
  busy := by
    intro op change
    rw [others op change, flags op change]
    exact h.busy op change
  current := by
    intro op change r member
    rw [others op change] at member
    exact current op change r member
  alone := by
    intro op other change change'
    rw [flags op change, flags other change']
    exact h.alone op other change change'
  refreshes := refreshes
  refreshing := refreshing
  vacant := by
    intro busy
    exact vacant (h.vacant ((flags .start Operation.noConfusion).symm.trans busy))
  held := by
    intro op change later r member
    rw [others op change] at member
    obtain ⟨s, some, board, id⟩ := h.held op change later r member
    obtain ⟨s', some', sameBoard, sameId⟩ := held s some
    exact ⟨s', some', by rw [board, sameBoard], by rw [id, sameId]⟩

/-- What counts for the account is the flags, the count, the session and the ledger. -/
theorem Balanced.of_same (h : Balanced st pending) (inFlight : st'.inFlight = st.inFlight)
    (refreshes : st'.refreshes = st.refreshes) (session : st'.session = st.session)
    (ledger : st'.ledger = st.ledger)
    (same : ∀ op, underWay st' pending' op = underWay st pending op) : Balanced st' pending' := by
  apply h.of_others
  · exact fun op _ => same op
  · exact fun op _ => by rw [inFlight]
  · rw [ledger]
    exact h.current
  · exact session.trans
  · exact fun s some => ⟨s, session.trans some, rfl, rfl⟩
  · rw [same, refreshes]
    exact h.refreshes
  · rw [inFlight, refreshes]
    exact h.refreshing

/-- When a request that can change the session is made, no other one is under way. -/
theorem Balanced.free_of_asks (h : Balanced st pending) {call : Call} (asks : st.Asks call st')
    (change : call.operation ≠ .refresh) {op : Operation} (other : op ≠ .refresh) :
    st.inFlight.get op = false := by
  cases asks with
  | get running held => exact absurd rfl change
  | answer running turn held valid => exact State.quiet_of_awaitingUserAnswer turn op other
  | confirm running turn held drafted => exact State.quiet_of_awaitingUserAnswer turn op other
  | start running free vacant =>
    -- an answer or a confirmation under way would hold a session
    have unheld : op ≠ .start → underWay st pending op = [] := by
      intro later
      rw [List.eq_nil_iff_forall_not_mem]
      intro r member
      obtain ⟨s, held, -⟩ := h.held op other later r member
      rw [vacant] at held
      cases held
    by_cases start : op = .start
    · rw [start]
      exact free
    · have count := h.busy op other
      rw [unheld start, List.length_nil] at count
      exact Bool.toNat_eq_zero.mp count.symm

/-- The state and the requests under way once a call is made, for which the state became `st'`. -/
def AskedBalanced (st' : State) (pending : List Request) (call : Call) (poll : Option Nat) : Prop :=
  Balanced { st' with ledger := st'.ledger.issue call.operation }
    (pending ++ [⟨st'.ledger.nextTicket call.operation, call, poll⟩])

/-- A new request is under way, and the others stay what they were. -/
theorem underWay_issue (call : Call) (poll : Option Nat) (op : Operation)
    (ledger : st'.ledger = st.ledger) :
    underWay { st' with ledger := st'.ledger.issue call.operation }
        (pending ++ [⟨st'.ledger.nextTicket call.operation, call, poll⟩]) op =
      underWay st pending op ++
        if call.operation = op then [⟨st'.ledger.nextTicket call.operation, call, poll⟩]
        else [] := by
  have issued : (st'.ledger.issue call.operation).sameEpoch
      (st'.ledger.nextTicket call.operation) = true := Ledger.sameEpoch_iff.mpr rfl
  have epoch : (st'.ledger.issue call.operation).epoch = st.ledger.epoch := by
    rw [ledger]
    rfl
  have old : underWay { st' with ledger := st'.ledger.issue call.operation } pending op =
      underWay st pending op := underWay_congr epoch pending op
  rw [underWay_concat issued, old]
  rfl

/-- A refresh is added to the count, and the account of the others stays. -/
theorem Balanced.asked_get (h : Balanced st pending) (tracked : Tracked st pending) {call : Call}
    (asks : st.Asks call st') (get : call.operation = .refresh) (poll : Option Nat) :
    AskedBalanced st' pending call poll := by
  have others : ∀ op, op ≠ .refresh →
      underWay { st' with ledger := st'.ledger.issue call.operation }
        (pending ++ [⟨st'.ledger.nextTicket call.operation, call, poll⟩]) op =
        underWay st pending op := by
    intro op change
    rw [underWay_issue call poll op asks.ledger, if_neg (fun same => change (same.symm.trans get)),
      List.append_nil]
  have more : st'.refreshes = st.refreshes + 1 := by
    rw [asks.refreshes, if_pos get]
  apply h.of_others others
  · intro op change
    show st'.inFlight.get op = _
    rw [asks.inFlight, InFlight.get_set, if_neg (fun same => change (same.trans get))]
  · intro op change r member
    obtain ⟨sent, -, kind⟩ := mem_underWay.mp member
    show (st'.ledger.issue call.operation).isCurrent r.ticket = true
    rw [asks.ledger, Ledger.isCurrent_issue_iff (tracked.covers r sent), kind, get]
    exact ⟨h.current op change r member, change, change⟩
  · exact asks.session.trans
  · exact fun s some => ⟨s, asks.session.trans some, rfl, rfl⟩
  · rw [underWay_issue call poll .refresh asks.ledger, if_pos get, List.length_append,
      ← h.refreshes]
    exact more
  · show st'.inFlight.refreshing = decide (0 < st'.refreshes)
    rw [more, asks.inFlight, get]
    exact (decide_eq_true (Nat.succ_pos _)).symm

/-- Any other request is the only one of the account, since nothing else is under way. -/
theorem Balanced.asked_change (h : Balanced st pending) (tracked : Tracked st pending) {call : Call}
    (asks : st.Asks call st') (change : call.operation ≠ .refresh) (poll : Option Nat) :
    AskedBalanced st' pending call poll := by
  have count : st'.refreshes = st.refreshes := by
    rw [asks.refreshes, if_neg change]
  apply Balanced.of_single
  · intro op other
    rw [underWay_issue call poll op asks.ledger,
      h.underWay_eq_nil other (h.free_of_asks asks change other), List.nil_append]
  · intro op other
    show st'.inFlight.get op = _
    rw [asks.inFlight, InFlight.get_set]
    by_cases same : op = call.operation
    · rw [if_pos same, decide_eq_true same.symm]
    · rw [if_neg same, h.free_of_asks asks change other, decide_eq_false (fun eq => same eq.symm)]
  · show (st'.ledger.issue call.operation).isCurrent (st'.ledger.nextTicket call.operation) = true
    rw [asks.ledger]
    exact Ledger.isCurrent_nextTicket tracked.counted _
  · intro start
    exact asks.session.trans (asks.vacant start).1
  · intro later
    show ∃ s, st'.session = some s ∧ _
    rw [asks.session]
    exact asks.held later
  · rw [underWay_issue call poll .refresh asks.ledger, if_neg change, List.append_nil,
      ← h.refreshes]
    exact count
  · show st'.inFlight.refreshing = decide (0 < st'.refreshes)
    rw [count, ← h.refreshing]
    have kept := InFlight.get_set st.inFlight true call.operation .refresh
    rw [if_neg change.symm, ← asks.inFlight] at kept
    exact kept

theorem Balanced.asked (h : Balanced st pending) (tracked : Tracked st pending) {call : Call}
    (asks : st.Asks call st') (poll : Option Nat) : AskedBalanced st' pending call poll := by
  by_cases get : call.operation = .refresh
  · exact h.asked_get tracked asks get poll
  · exact h.asked_change tracked asks get poll

/-- The reply to a refresh, current or not. -/
theorem Balanced.replied_get (h : Balanced st pending) (tracked : Tracked st pending) {r : Request}
    {reply : Reply} (sent : r ∈ pending) (takes : st.Takes r reply st')
    (get : r.call.operation = .refresh) : Balanced st' (pending.erase r) := by
  obtain ⟨flags, count⟩ := (takes.of_refresh get).finishes
  have epoch : st'.ledger.epoch = st.ledger.epoch := by rw [takes.ledger]
  have others : ∀ op, op ≠ .refresh →
      underWay st' (pending.erase r) op = underWay st pending op := by
    intro op change
    rw [underWay_congr epoch]
    refine underWay_erase fun member => change ?_
    rw [← (mem_underWay.mp member).2.2, tracked.operation r sent, get]
  apply h.of_others others
  · intro op change
    rw [flags]
    exact st.finishRefresh_get r.ticket change
  · rw [takes.ledger]
    exact h.current
  · intro vacant
    rcases (takes.of_refresh get).session with same | ⟨s, -, -, accepted, -⟩
    · exact same.trans vacant
    · obtain ⟨held, some, -⟩ := State.acceptsRefresh_iff.mp accepted
      rw [vacant] at some
      cases some
  · intro held some
    rcases (takes.of_refresh get).session with same | ⟨s, -, -, accepted, new⟩
    · exact ⟨held, same.trans some, rfl, rfl⟩
    · -- the session that comes in place of the held one has its ids
      obtain ⟨held', some', supersedes⟩ := State.acceptsRefresh_iff.mp accepted
      obtain rfl : held = held' := Option.some.inj (some.symm.trans some')
      exact ⟨s, new, supersedes.boardId, supersedes.id⟩
  · rw [count, State.finishRefresh_refreshes, underWay_congr epoch, h.refreshes]
    split
    · rename_i counted
      have member : r ∈ underWay st pending .refresh :=
        mem_underWay.mpr ⟨sent, counted, (tracked.operation r sent).trans get⟩
      exact (length_underWay_erase member).symm
    · rename_i passed
      rw [underWay_erase fun member => passed (mem_underWay.mp member).2.1]
  · rw [flags, count]
    exact st.finishRefresh_refreshing r.ticket h.refreshing

/-- The reply to the one request that can change the session ends the account of that request. -/
theorem Balanced.replied_change (h : Balanced st pending) (tracked : Tracked st pending)
    {r : Request} {reply : Reply} (sent : r ∈ pending) (takes : st.Takes r reply st')
    (change : r.call.operation ≠ .refresh) : Balanced st' (pending.erase r) := by
  have kind := tracked.operation r sent
  have epoch : st'.ledger.epoch = st.ledger.epoch := by rw [takes.ledger]
  cases current : st.ledger.isCurrent r.ticket with
  | false =>
    -- a request that is not current belongs to an earlier epoch, and is not counted
    obtain rfl := (takes.of_change change).eq_of_late current
    refine h.of_same rfl rfl rfl rfl fun op => underWay_erase fun member => ?_
    have same := (mem_underWay.mp member).2.2
    rw [h.current op (by rw [← same, kind]; exact change) r member] at current
    cases current
  | true =>
    obtain ⟨flags, count⟩ := (takes.of_change change).ends current
    have member : r ∈ underWay st pending r.call.operation :=
      mem_underWay.mpr ⟨sent, Ledger.sameEpoch_of_isCurrent current, kind⟩
    have busy : st.inFlight.get r.call.operation = true := h.busy_of_mem change member
    have strange : ∀ op, op ≠ r.call.operation →
        underWay st' (pending.erase r) op = underWay st pending op := by
      intro op other
      rw [underWay_congr epoch]
      refine underWay_erase fun same => other ?_
      rw [← (mem_underWay.mp same).2.2, kind]
    refine .of_quiet ?_ ?_ ?_
    · intro op change'
      by_cases same : op = r.call.operation
      · rw [flags, InFlight.get_set, if_pos same, underWay_congr epoch, same]
        refine ⟨rfl, List.eq_nil_of_length_eq_zero ?_⟩
        rw [length_underWay_erase member, h.busy _ change, busy]
        rfl
      · have free := h.free_of_busy change busy change' same
        rw [flags, InFlight.get_set, if_neg same, strange op same]
        exact ⟨free, h.underWay_eq_nil change' free⟩
    · rw [count, strange .refresh change.symm]
      exact h.refreshes
    · have kept := InFlight.get_set st.inFlight false r.call.operation .refresh
      rw [if_neg change.symm, ← flags] at kept
      rw [count, ← h.refreshing]
      exact kept

/-- When no request counts any more, no flag may be set. -/
theorem Balanced.of_invalidateAll (tracked : Tracked st pending)
    (ledger : st'.ledger = st.ledger.invalidateAll) (flags : st'.inFlight = .none)
    (count : st'.refreshes = 0) : Balanced st' pending := by
  refine .of_quiet ?_ ?_ ?_
  · intro op _
    rw [flags, underWay_invalidateAll tracked ledger]
    exact ⟨InFlight.get_none op, rfl⟩
  · rw [count, underWay_invalidateAll tracked ledger]
    rfl
  · rw [flags, count]
    rfl

theorem Balanced.change (h : Balanced st pending) (tracked : Tracked st pending) {event : Event}
    {request : Option Request} (change : Change st pending event st' pending' request) :
    Balanced st' pending' := by
  cases change with
  | nothing idle => exact h
  | asked kind asks => exact h.asked tracked asks _
  | selected running turn offered => exact h.of_same rfl rfl rfl rfl fun op => rfl
  | cleared running free =>
    have quiet := InFlight.quiet_of_free free
    have epoch : (cleared st).ledger.epoch = st.ledger.epoch := by rw [cleared_ledger]
    refine .of_quiet ?_ ?_ ?_
    · intro op change
      rw [cleared_inFlight, underWay_congr epoch]
      exact ⟨quiet op change, h.underWay_eq_nil change (quiet op change)⟩
    · rw [cleared_refreshes, underWay_congr epoch]
      exact h.refreshes
    · rw [cleared_inFlight, cleared_refreshes]
      exact h.refreshing
  | moved running other => exact .of_invalidateAll tracked rfl rfl rfl
  | closed running => exact .of_invalidateAll tracked rfl rfl rfl
  | @replied r reply st' sent takes =>
    by_cases get : r.call.operation = .refresh
    · exact h.replied_get tracked sent takes get
    · exact h.replied_change tracked sent takes get

end Balanced

/-- The books of a conversation: its requests are tracked, and its state is in balance with them. -/
structure Books (c : Conversation) : Prop where
  tracked : Tracked c.state c.pending
  balanced : Balanced c.state c.pending

theorem books_initial (boardId : String) (interval : Period) (page : Page) :
    (initial boardId interval page).Books where
  tracked := tracked_initial boardId
  balanced := .of_quiet (fun op _ => ⟨InFlight.get_none op, rfl⟩) rfl rfl

theorem Books.step {c : Conversation} (h : c.Books) (now : Nat) (event : Event) :
    (c.step now event).1.Books where
  tracked := h.tracked.change (step_changes now c event)
  balanced := h.balanced.change h.tracked (step_changes now c event)

theorem Books.run {c : Conversation} (h : c.Books) (events : List (Nat × Event)) :
    (c.run events).Books :=
  run_keeps (fun _ now event kept => kept.step now event) events c h

/-- What every event keeps of a conversation with exact books, every run keeps. -/
theorem Books.keeps {P : Conversation → Prop}
    (keeps : ∀ (c : Conversation) (now : Nat) (event : Event), c.Books → P c →
      P (c.step now event).1)
    {c : Conversation} (h : c.Books) (holds : P c) (events : List (Nat × Event)) :
    P (c.run events) := by
  have kept : (c.run events).Books ∧ P (c.run events) := by
    refine run_keeps (P := fun c => c.Books ∧ P c) ?_ events c ⟨h, holds⟩
    rintro c now event ⟨books, holds⟩
    exact ⟨books.step now event, keeps c now event books holds⟩
  exact kept.2

/-- The conversation is what some run has made of a new one. -/
def Reachable (c : Conversation) : Prop :=
  ∃ boardId interval page events, (initial boardId interval page).run events = c

theorem Reachable.books {c : Conversation} (h : c.Reachable) : c.Books := by
  obtain ⟨boardId, interval, page, events, rfl⟩ := h
  exact (books_initial boardId interval page).run events

/-- The requests of a kind that were sent in the present epoch and have not been answered. -/
def unanswered (c : Conversation) (op : Operation) : List Request :=
  underWay c.state c.pending op

/-- What the flags and the count of a conversation tell of its unanswered requests, after as many
steps as it has taken. No counter outruns the steps. -/
structure Accounted (c : Conversation) (steps : Nat) : Prop where
  busy : ∀ op, op ≠ .refresh → (c.state.inFlight.get op = true ↔ ∃ r, c.unanswered op = [r])
  free : ∀ op, op ≠ .refresh → (c.state.inFlight.get op = false ↔ c.unanswered op = [])
  current : ∀ op, op ≠ .refresh → ∀ r ∈ c.unanswered op, c.state.ledger.isCurrent r.ticket = true
  alone : ∀ op other, op ≠ .refresh → other ≠ .refresh → c.state.inFlight.get op = true →
    c.state.inFlight.get other = true → op = other
  refreshes : c.state.refreshes = (c.unanswered .refresh).length
  refreshing : c.state.inFlight.refreshing = true ↔ 0 < c.state.refreshes
  unsaturated : ∀ r ∈ c.pending, r.ticket.operation = .refresh →
    c.state.ledger.sameEpoch r.ticket = true →
      (c.state.finishRefresh r.ticket).refreshes + 1 = c.state.refreshes
  vacant : c.state.inFlight.starting = true → c.state.session = none
  held : ∀ op, op = .answer ∨ op = .confirm → c.state.inFlight.get op = true →
    ∃ r s, c.unanswered op = [r] ∧ c.state.session = some s ∧ r.call.boardId = s.boardId ∧
      r.call.sessionId? = some s.id
  counted : c.state.refreshes ≤ steps ∧ c.state.ledger.issued + c.state.ledger.epoch ≤ steps

/-- A current request under way is unanswered. -/
theorem Books.mem_unanswered {c : Conversation} (h : c.Books) {r : Request} (sent : r ∈ c.pending)
    (current : c.state.ledger.isCurrent r.ticket = true) : r ∈ c.unanswered r.call.operation :=
  mem_underWay.mpr ⟨sent, Ledger.sameEpoch_of_isCurrent current, h.tracked.operation r sent⟩

theorem Books.busy_iff {c : Conversation} (h : c.Books) {op : Operation} (change : op ≠ .refresh) :
    c.state.inFlight.get op = true ↔ ∃ r, c.unanswered op = [r] := by
  have count : (c.unanswered op).length = (c.state.inFlight.get op).toNat :=
    h.balanced.busy op change
  constructor
  · intro busy
    rw [busy] at count
    exact List.length_eq_one_iff.mp count
  · rintro ⟨r, only⟩
    refine h.balanced.busy_of_mem change (r := r) ?_
    show r ∈ c.unanswered op
    rw [only]
    exact List.mem_singleton_self r

/-- A refresh that counts is counted, so taking it off the count leaves one less. -/
theorem Books.unsaturated {c : Conversation} (h : c.Books) {r : Request} (sent : r ∈ c.pending)
    (get : r.ticket.operation = .refresh) (counts : c.state.ledger.sameEpoch r.ticket = true) :
    (c.state.finishRefresh r.ticket).refreshes + 1 = c.state.refreshes := by
  have member : r ∈ underWay c.state c.pending .refresh := mem_underWay.mpr ⟨sent, counts, get⟩
  have some : 0 < c.state.refreshes := by
    rw [h.balanced.refreshes]
    exact List.length_pos_of_mem member
  rw [State.finishRefresh_refreshes, if_pos counts]
  exact Nat.sub_add_cancel some

theorem Books.accounted {c : Conversation} (h : c.Books) {steps : Nat}
    (counted : c.state.refreshes ≤ steps ∧ c.state.ledger.issued + c.state.ledger.epoch ≤ steps) :
    c.Accounted steps where
  busy := fun op change => h.busy_iff change
  free := by
    intro op change
    refine ⟨fun free => h.balanced.underWay_eq_nil change free, fun none => ?_⟩
    have count := h.balanced.busy op change
    rw [show underWay c.state c.pending op = [] from none, List.length_nil] at count
    exact Bool.toNat_eq_zero.mp count.symm
  current := h.balanced.current
  alone := h.balanced.alone
  refreshes := h.balanced.refreshes
  refreshing := by
    rw [h.balanced.refreshing, decide_eq_true_iff]
  unsaturated := fun r sent get counted => h.unsaturated sent get counted
  vacant := h.balanced.vacant
  held := by
    intro op kind busy
    have change : op ≠ .refresh := by
      rcases kind with rfl | rfl <;> exact Operation.noConfusion
    have later : op ≠ .start := by
      rcases kind with rfl | rfl <;> exact Operation.noConfusion
    obtain ⟨r, only⟩ := (h.busy_iff change).mp busy
    have member : r ∈ underWay c.state c.pending op := by
      show r ∈ c.unanswered op
      rw [only]
      exact List.mem_singleton_self r
    obtain ⟨s, held, board, id⟩ := h.balanced.held op change later r member
    exact ⟨r, s, only, held, board, id⟩
  counted := counted

theorem Books.refreshes_le {c : Conversation} (h : c.Books) :
    c.state.refreshes ≤ c.pending.length := by
  rw [h.balanced.refreshes]
  exact List.length_filter_le _ _

/-- No counter of a conversation outruns the events of its run. -/
theorem run_counters_le (boardId : String) (interval : Period) (page : Page)
    (events : List (Nat × Event)) :
    ((initial boardId interval page).run events).state.refreshes ≤ events.length ∧
      ((initial boardId interval page).run events).state.ledger.issued +
          ((initial boardId interval page).run events).state.ledger.epoch ≤ events.length := by
  obtain ⟨numbers, requests⟩ := run_grows events (initial boardId interval page)
  have unanswered := ((books_initial boardId interval page).run events).refreshes_le
  have none : (initial boardId interval page).pending.length = 0 := rfl
  have fresh : (initial boardId interval page).state.ledger.issued +
      (initial boardId interval page).state.ledger.epoch = 0 := rfl
  omega

/-- In every run, whatever its events and their order, the flags and the count are exact, and no
counter is greater than the number of the events. -/
theorem run_accounted (boardId : String) (interval : Period) (page : Page)
    (events : List (Nat × Event)) :
    ((initial boardId interval page).run events).Accounted events.length :=
  ((books_initial boardId interval page).run events).accounted
    (run_counters_le boardId interval page events)

end Dialogue.Conversation
