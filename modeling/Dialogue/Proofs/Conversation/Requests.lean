import Dialogue.Proofs.Conversation.Change
import Dialogue.Proofs.Ledger

/-! # The requests of a run

What one event keeps, every run keeps (`run_keeps`). The first thing that is kept so is that the
requests under way carry the tickets that the ledger gave them, in the order in which they were
sent.

The requests that a run sends are counted by the ledger, so that a ledger that has not moved on
tells that nothing was sent. -/

namespace Dialogue.Conversation

theorem run_cons (c : Conversation) (now : Nat) (event : Event) (rest : List (Nat × Event)) :
    c.run ((now, event) :: rest) = (c.step now event).1.run rest := rfl

theorem run_append (c : Conversation) (before after : List (Nat × Event)) :
    c.run (before ++ after) = (c.run before).run after :=
  List.foldl_append

/-- What every event keeps, every run keeps. -/
theorem run_keeps {P : Conversation → Prop}
    (keeps : ∀ (c : Conversation) (now : Nat) (event : Event), P c → P (c.step now event).1)
    (events : List (Nat × Event)) : ∀ c : Conversation, P c → P (c.run events) := by
  induction events with
  | nil => exact fun c start => start
  | cons first rest ih =>
    intro c start
    obtain ⟨now, event⟩ := first
    rw [run_cons]
    exact ih _ (keeps c now event start)

/-- Something holds at every point of a run, its start and its end included. -/
def Throughout (P : Conversation → Prop) (c : Conversation) (events : List (Nat × Event)) : Prop :=
  ∀ before after, events = before ++ after → P (c.run before)

theorem throughout_cons_iff {P : Conversation → Prop} {c : Conversation} {now : Nat} {event : Event}
    {rest : List (Nat × Event)} :
    c.Throughout P ((now, event) :: rest) ↔ P c ∧ (c.step now event).1.Throughout P rest := by
  constructor
  · intro always
    refine ⟨always [] _ rfl, fun before after split => ?_⟩
    exact always ((now, event) :: before) after (congrArg ((now, event) :: ·) split)
  · rintro ⟨here, always⟩ before after split
    rcases List.cons_eq_append_iff.mp split with ⟨rfl, -⟩ | ⟨before', rfl, split'⟩
    · exact here
    · exact always before' after split'

/-- What holds at the end of a run has held all through it, or since one of its events. -/
theorem run_turns {P : Conversation → Prop} (events : List (Nat × Event)) :
    ∀ {c : Conversation}, P (c.run events) →
      c.Throughout P events ∨ ∃ before now event after, events = before ++ (now, event) :: after ∧
        ¬ P (c.run before) ∧ ((c.run before).step now event).1.Throughout P after := by
  induction events with
  | nil =>
    intro c holds
    refine .inl fun before after split => ?_
    obtain ⟨rfl, -⟩ := List.append_eq_nil_iff.mp split.symm
    exact holds
  | cons first rest ih =>
    intro c holds
    obtain ⟨now, event⟩ := first
    rcases ih holds with always | ⟨before, now', event', after, split, without, since⟩
    · by_cases here : P c
      · exact .inl (throughout_cons_iff.mpr ⟨here, always⟩)
      · exact .inr ⟨[], now, event, rest, rfl, here, always⟩
    · refine .inr ⟨(now, event) :: before, now', event', after, ?_, without, since⟩
      rw [split]
      rfl

/-- The requests that a run sends, in their order. -/
def sent (c : Conversation) : List (Nat × Event) → List Request
  | [] => []
  | (now, event) :: rest =>
    (c.step now event).2.request?.toList ++ (c.step now event).1.sent rest

theorem sent_append (c : Conversation) (before after : List (Nat × Event)) :
    c.sent (before ++ after) = c.sent before ++ (c.run before).sent after := by
  induction before generalizing c with
  | nil => rfl
  | cons first rest ih =>
    obtain ⟨now, event⟩ := first
    rw [List.cons_append, sent, ih, sent, List.append_assoc]
    rfl

/-- A session in which the assistant has asked one question. -/
def questioned (status : Status) : Session where
  id := "s"
  boardId := "b"
  sessionKey := "k"
  status := status
  messages := [⟨.assistant, "What is the goal?", none⟩]
  draftGoal := none
  createdAt := none
  updatedAt := none

/-- A session in which nothing has been said. -/
def unspoken : Session := { questioned .active with messages := [] }

/-- The events by which a conversation comes to its first question. -/
def opening : List (Nat × Event) := [(0, .start), (0, .reply 1 (.ok (questioned .active)))]

/-- A period of two seconds. -/
def usual : Period := ⟨2000, Nat.succ_pos 1999⟩

/-- A conversation in which the assistant has asked one question. -/
def opened : Conversation := (initial "b" usual (.start .alwaysActive true)).run opening

example : (opened.sent [(0, .refresh), (0, .submitText "Growth")]).map (·.ticket.seq) = [2, 3] := by
  decide +kernel

theorem request?_eq_some {outcome : Outcome} {r : Request} :
    outcome.request? = some r ↔ outcome = .waiting r := by
  cases outcome with
  | ended result => exact ⟨(nomatch ·), (nomatch ·)⟩
  | waiting request => rw [Outcome.request?, Option.some.injEq, Outcome.waiting.injEq]
  | goesOn => exact ⟨(nomatch ·), (nomatch ·)⟩

/-- Every request that a run sends is sent by one of its events. -/
theorem exists_of_mem_sent {r : Request} (events : List (Nat × Event)) :
    ∀ {c : Conversation}, r ∈ c.sent events →
      ∃ before now event after, events = before ++ (now, event) :: after ∧
        ((c.run before).step now event).2 = .waiting r := by
  induction events with
  | nil => exact fun member => nomatch member
  | cons first rest ih =>
    intro c member
    obtain ⟨now, event⟩ := first
    rcases List.mem_append.mp member with here | later
    · refine ⟨[], now, event, rest, rfl, ?_⟩
      exact request?_eq_some.mp (Option.mem_toList.mp here)
    · obtain ⟨before, now', event', after, split, sends⟩ := ih later
      refine ⟨(now, event) :: before, now', event', after, ?_, sends⟩
      rw [split]
      rfl

/-- The last request that a run sends is sent by one of its events, and none is sent after that. -/
theorem exists_of_getLast?_sent {r : Request} (events : List (Nat × Event)) :
    ∀ {c : Conversation}, (c.sent events).getLast? = some r →
      ∃ before now event after, events = before ++ (now, event) :: after ∧
        ((c.run before).step now event).2 = .waiting r ∧
        ((c.run before).step now event).1.sent after = [] := by
  induction events with
  | nil => exact fun last => nomatch last
  | cons first rest ih =>
    intro c last
    obtain ⟨now, event⟩ := first
    rw [sent, List.getLast?_append] at last
    cases later : ((c.step now event).1.sent rest).getLast? with
    | none =>
      rw [later, Option.none_or] at last
      refine ⟨[], now, event, rest, rfl, ?_, List.getLast?_eq_none_iff.mp later⟩
      cases request : (c.step now event).2.request? with
      | none =>
        rw [request] at last
        cases last
      | some r' =>
        rw [request] at last
        obtain rfl : r' = r := Option.some.inj last
        exact request?_eq_some.mp request
    | some r' =>
      rw [later, Option.some_or] at last
      obtain ⟨before, now', event', after, split, sends, silent⟩ := ih (later.trans last)
      refine ⟨(now, event) :: before, now', event', after, ?_, sends, silent⟩
      rw [split]
      rfl

/-- The requests under way carry the tickets that the ledger gave them. -/
structure Tracked (st : State) (pending : List Request) : Prop where
  counted : st.ledger.Counted
  covers : ∀ r ∈ pending, st.ledger.Covers r.ticket
  operation : ∀ r ∈ pending, r.ticket.operation = r.call.operation
  ordered : pending.Pairwise fun a b => a.ticket.seq < b.ticket.seq

theorem tracked_initial (boardId : String) : Tracked (.initial boardId) [] where
  counted := Ledger.counted_empty
  covers := fun _ none => nomatch none
  operation := fun _ none => nomatch none
  ordered := .nil

variable {st st' : State} {pending pending' : List Request} {event : Event}
  {request : Option Request}

/-- An event notes the request that it sends, starts a new epoch, or leaves the ledger alone. -/
theorem Change.ledger (change : Change st pending event st' pending' request) :
    (request = none ∧ (st'.ledger = st.ledger ∨ st'.ledger = st.ledger.invalidateAll)) ∨
      ∃ call poll, request = some ⟨st.ledger.nextTicket call.operation, call, poll⟩ ∧
        st'.ledger = st.ledger.issue call.operation := by
  cases change with
  | nothing idle => exact .inl ⟨rfl, .inl rfl⟩
  | @asked _ st' call poll kind asks =>
    refine .inr ⟨call, poll, ?_, ?_⟩
    · rw [asks.ledger]
    · rw [asks.ledger]
  | selected running turn offered => exact .inl ⟨rfl, .inl rfl⟩
  | cleared running free => exact .inl ⟨rfl, .inl (cleared_ledger st)⟩
  | moved running other => exact .inl ⟨rfl, .inr rfl⟩
  | closed running => exact .inl ⟨rfl, .inr rfl⟩
  | replied sent takes => exact .inl ⟨rfl, .inl takes.ledger⟩

/-- An event that sends a request makes its call. -/
theorem Change.exists_asks {r : Request} (change : Change st pending event st' pending' (some r)) :
    ∃ asked, st.Asks r.call asked ∧
      st' = { asked with ledger := st.ledger.issue r.call.operation } ∧
      r.ticket = st.ledger.nextTicket r.call.operation ∧ pending' = pending ++ [r] := by
  cases change with
  | asked kind asks =>
    refine ⟨_, asks, ?_, ?_, rfl⟩
    · rw [asks.ledger]
    · rw [asks.ledger]

theorem exists_asks_of_waiting {c : Conversation} {now : Nat} {event : Event} {r : Request}
    (sends : (c.step now event).2 = .waiting r) :
    ∃ asked, c.state.Asks r.call asked ∧
      (c.step now event).1.state =
        { asked with ledger := c.state.ledger.issue r.call.operation } ∧
      r.ticket = c.state.ledger.nextTicket r.call.operation ∧
      (c.step now event).1.pending = c.pending ++ [r] := by
  have change := step_changes now c event
  rw [sends] at change
  exact Change.exists_asks change

/-- A request is sent by an event that makes calls of its kind. -/
theorem Change.asking {r : Request} (change : Change st pending event st' pending' (some r)) :
    Conversation.asking event r.call.operation = true := by
  cases change with
  | asked kind asks => exact kind

theorem asking_of_waiting {c : Conversation} {now : Nat} {event : Event} {r : Request}
    (sends : (c.step now event).2 = .waiting r) : asking event r.call.operation = true := by
  have change := step_changes now c event
  rw [sends] at change
  exact change.asking

/-- A request carries the epoch in which it is sent. -/
theorem epoch_of_waiting {c : Conversation} {now : Nat} {event : Event} {r : Request}
    (sends : (c.step now event).2 = .waiting r) : r.ticket.epoch = c.state.ledger.epoch := by
  have change := step_changes now c event
  rw [sends] at change
  rcases change.ledger with ⟨silent, -⟩ | ⟨call, poll, sent, -⟩
  · cases silent
  · rw [Option.some.inj sent]
    rfl

/-- An event makes at most one number or one epoch. -/
theorem Change.issued_le (change : Change st pending event st' pending' request) :
    st'.ledger.issued + st'.ledger.epoch ≤ st.ledger.issued + st.ledger.epoch + 1 := by
  rcases change.ledger with ⟨-, same | invalid⟩ | ⟨call, poll, -, issued⟩
  · rw [same]
    omega
  · rw [invalid]
    exact Nat.le_refl _
  · rw [issued]
    simp only [Ledger.issue]
    omega

theorem Change.length_pending_le (change : Change st pending event st' pending' request) :
    pending'.length ≤ pending.length + 1 := by
  cases change with
  | asked kind asks => simp
  | replied sent takes => exact Nat.le_succ_of_le List.erase_sublist.length_le
  | nothing idle => exact Nat.le_succ _
  | selected running turn offered => exact Nat.le_succ _
  | cleared running free => exact Nat.le_succ _
  | moved running other => exact Nat.le_succ _
  | closed running => exact Nat.le_succ _

/-- The requests under way were so before, but for the one that is sent. -/
theorem Change.mem_pending (change : Change st pending event st' pending' request) {r : Request}
    (member : r ∈ pending') : r ∈ pending ∨ r ∈ request.toList := by
  cases change with
  | asked kind asks => exact List.mem_append.mp member
  | replied sent takes => exact .inl (List.mem_of_mem_erase member)
  | nothing idle => exact .inl member
  | selected running turn offered => exact .inl member
  | cleared running free => exact .inl member
  | moved running other => exact .inl member
  | closed running => exact .inl member

/-- The requests under way after a run were so before it, or were sent by it. -/
theorem mem_pending_run {r : Request} (events : List (Nat × Event)) :
    ∀ {c : Conversation}, r ∈ (c.run events).pending → r ∈ c.pending ∨ r ∈ c.sent events := by
  induction events with
  | nil => exact fun member => .inl member
  | cons first rest ih =>
    intro c member
    obtain ⟨now, event⟩ := first
    rcases ih member with earlier | later
    · rcases (step_changes now c event).mem_pending earlier with old | new
      · exact .inl old
      · exact .inr (List.mem_append_left _ new)
    · exact .inr (List.mem_append_right _ later)

/-- Numbers, epochs and requests under way grow by one an event at most. -/
theorem run_grows (events : List (Nat × Event)) :
    ∀ c : Conversation,
      (c.run events).state.ledger.issued + (c.run events).state.ledger.epoch ≤
          c.state.ledger.issued + c.state.ledger.epoch + events.length ∧
        (c.run events).pending.length ≤ c.pending.length + events.length := by
  induction events with
  | nil => exact fun c => ⟨Nat.le_refl _, Nat.le_refl _⟩
  | cons first rest ih =>
    intro c
    obtain ⟨now, event⟩ := first
    have change := step_changes now c event
    have numbers := change.issued_le
    have requests := change.length_pending_le
    obtain ⟨later, laterRequests⟩ := ih (c.step now event).1
    rw [run_cons, List.length_cons]
    omega

/-- Without a new request, it is enough that the ledger and the requests are what they were. -/
theorem Tracked.of_sublist (h : Tracked st pending) (ledger : st'.ledger = st.ledger)
    (fewer : pending'.Sublist pending) : Tracked st' pending' where
  counted := by rw [ledger]; exact h.counted
  covers := fun r sent => by rw [ledger]; exact h.covers r (fewer.subset sent)
  operation := fun r sent => h.operation r (fewer.subset sent)
  ordered := h.ordered.sublist fewer

theorem Tracked.invalidateAll (h : Tracked st pending)
    (ledger : st'.ledger = st.ledger.invalidateAll) : Tracked st' pending where
  counted := by rw [ledger]; exact h.counted.invalidateAll
  covers := fun r sent => by rw [ledger]; exact (h.covers r sent).invalidateAll
  operation := h.operation
  ordered := h.ordered

theorem Tracked.issue (h : Tracked st pending) (call : Call) (poll : Option Nat)
    (ledger : st'.ledger = st.ledger.issue call.operation) :
    Tracked st' (pending ++ [⟨st.ledger.nextTicket call.operation, call, poll⟩]) where
  counted := by rw [ledger]; exact h.counted.issue _
  covers := by
    rw [ledger]
    intro r sent
    rcases List.mem_append.mp sent with old | new
    · exact (h.covers r old).issue _
    · rw [List.mem_singleton.mp new]
      exact Ledger.covers_nextTicket _ _
  operation := by
    intro r sent
    rcases List.mem_append.mp sent with old | new
    · exact h.operation r old
    · rw [List.mem_singleton.mp new]
      rfl
  ordered := by
    rw [List.pairwise_append]
    refine ⟨h.ordered, List.pairwise_singleton _ _, ?_⟩
    intro old sent new same
    rw [List.mem_singleton.mp same]
    exact Nat.lt_succ_of_le (h.covers old sent).seq

theorem Tracked.change (h : Tracked st pending)
    (change : Change st pending event st' pending' request) : Tracked st' pending' := by
  cases change with
  | nothing idle => exact h
  | asked kind asks =>
    rw [asks.ledger]
    exact h.issue _ _ rfl
  | selected running turn offered => exact h.of_sublist rfl (.refl _)
  | cleared running free => exact h.of_sublist (cleared_ledger st) (.refl _)
  | moved running other => exact h.invalidateAll rfl
  | closed running => exact h.invalidateAll rfl
  | replied sent takes => exact h.of_sublist takes.ledger List.erase_sublist

/-- A request under way is known by its number. -/
theorem Tracked.eq_of_seq (h : Tracked st pending) {a b : Request} (first : a ∈ pending)
    (second : b ∈ pending) (same : a.ticket.seq = b.ticket.seq) : a = b := by
  obtain ⟨i, hi, rfl⟩ := List.getElem_of_mem first
  obtain ⟨j, hj, rfl⟩ := List.getElem_of_mem second
  rcases Nat.lt_trichotomy i j with less | rfl | more
  · exact absurd same (Nat.ne_of_lt (List.pairwise_iff_getElem.mp h.ordered i j hi hj less))
  · rfl
  · exact absurd same.symm (Nat.ne_of_lt (List.pairwise_iff_getElem.mp h.ordered j i hj hi more))

theorem Tracked.erase_eq_filter (h : Tracked st pending) {r : Request} (sent : r ∈ pending) :
    pending.erase r = pending.filter fun other => !decide (other.ticket.seq = r.ticket.seq) := by
  have distinct : pending.Nodup := h.ordered.imp fun less same => by
    rw [same] at less
    exact Nat.lt_irrefl _ less
  rw [distinct.erase_eq_filter]
  refine List.filter_congr fun other member => ?_
  by_cases same : other.ticket.seq = r.ticket.seq
  · rw [h.eq_of_seq member sent same]
    simp
  · have different : other ≠ r := fun eq => same (by rw [eq])
    simp [same, different]

/-- The reply to a request under way is taken by that request. -/
theorem Change.takes {r : Request} {reply : Reply} (h : Tracked st pending) (sent : r ∈ pending)
    {seq : Nat} (numbered : r.ticket.seq = seq)
    (change : Change st pending (.reply seq reply) st' pending' request) :
    st.Takes r reply st' := by
  cases change with
  | nothing idle => exact absurd numbered (idle r sent)
  | asked kind asks => cases kind
  | replied sent' takes =>
    obtain rfl := h.eq_of_seq sent sent' numbered
    exact takes

theorem reply_takes {c : Conversation} (h : Tracked c.state c.pending) {r : Request}
    (sent : r ∈ c.pending) (now : Nat) (reply : Reply) :
    c.state.Takes r reply (c.reply now r.ticket.seq reply).1.state :=
  Change.takes h sent rfl (reply_changes now c r.ticket.seq reply)

/-- Whether an event is the reply to a request. -/
def answers : Event → Request → Bool
  | .reply seq _, r => r.ticket.seq = seq
  | _, _ => false

/-- An event takes off the request that it answers and adds the one that it sends. -/
theorem Change.underWay (h : Tracked st pending)
    (change : Change st pending event st' pending' request) :
    pending' = pending.filter (fun r => !answers event r) ++ request.toList := by
  have all : (∀ r ∈ pending, answers event r = false) →
      pending.filter (fun r => !answers event r) = pending := by
    intro silent
    rw [List.filter_eq_self]
    intro r sent
    rw [silent r sent]
    rfl
  have kept : (∀ r ∈ pending, answers event r = false) →
      pending = pending.filter (fun r => !answers event r) ++ none.toList := by
    intro silent
    rw [all silent, Option.toList_none, List.append_nil]
  cases change with
  | nothing idle =>
    apply kept
    intro r sent
    cases event with
    | reply seq reply => exact decide_eq_false (idle r sent)
    | _ => rfl
  | asked kind asks =>
    rw [all]
    · rfl
    · intro r sent
      cases event with
      | reply seq reply => cases kind
      | _ => rfl
  | selected running turn offered => exact kept fun r sent => rfl
  | cleared running free => exact kept fun r sent => rfl
  | moved running other => exact kept fun r sent => rfl
  | closed running => exact kept fun r sent => rfl
  | replied sent takes =>
    rw [Option.toList_none, List.append_nil, h.erase_eq_filter sent]
    rfl

/-- The requests under way are those that were sent and have not been answered. -/
theorem step_pending {c : Conversation} (h : Tracked c.state c.pending) (now : Nat)
    (event : Event) :
    (c.step now event).1.pending =
      c.pending.filter (fun r => !answers event r) ++ (c.step now event).2.request?.toList :=
  Change.underWay h (step_changes now c event)

end Dialogue.Conversation
