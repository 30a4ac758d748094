import Dialogue.Proofs.Conversation.Accounting
import Dialogue.Proofs.Conversation.Polling

/-! # What the ticks fetch

The task of a tick fetches the session only while the assistant is awaited, the page is visible and
no refresh of the epoch is unanswered. It looks for itself: a task that comes late, after the timer
has been disarmed or armed anew, fetches on the same terms as any other. So however many tasks are
about, at most one fetch of theirs is under way in an epoch. -/

namespace Dialogue.Conversation

/-- The arming of the timer for whose tick an event is the task. -/
def arming? : Event → Option Nat
  | .poll arming => some arming
  | _ => none

/-- A tick may fetch: the assistant is awaited, the page is visible, and no refresh is
unanswered. -/
structure MayFetch (c : Conversation) : Prop where
  running : c.state.shutDown = false
  turn : c.state.phase = .awaitingAssistant
  visible : c.page.isActive = true
  free : c.unanswered .refresh = []

/-- Whether a request was sent by a tick, in the epoch. -/
def polledIn (epoch : Nat) (r : Request) : Bool := r.poll.isSome && r.ticket.epoch = epoch

/-- The requests under way that ticks have sent in an epoch. -/
def tickFetches (c : Conversation) (epoch : Nat) : List Request := c.pending.filter (polledIn epoch)

/-- Nothing that can be seen has changed, and nothing is sent. -/
structure Rests (c : Conversation) (done : Conversation × Outcome) : Prop where
  state : done.1.state = c.state
  view : done.1.view = c.view
  published : done.1.published = c.published
  pending : done.1.pending = c.pending
  silent : ∀ r, done.2 ≠ .waiting r

section Poll

variable {c : Conversation} {now : Nat} {r : Request}

theorem start_poll (sends : (c.start now).2 = .waiting r) : r.poll = none := by
  unfold start at sends
  grind [ends, refuse, send]

theorem refresh_poll (sends : (c.refresh now).2 = .waiting r) : r.poll = none := by
  unfold refresh at sends
  grind [ends, refuse, send]

theorem submit_poll {answer : Answer} (sends : (c.submit now answer).2 = .waiting r) :
    r.poll = none := by
  unfold submit at sends
  grind [ends, refuse, send]

theorem confirm_poll (sends : (c.confirm now).2 = .waiting r) : r.poll = none := by
  unfold confirm at sends
  grind [ends, refuse, send]

theorem poll_poll {arming : Nat} (sends : (c.poll now arming).2 = .waiting r) :
    r.poll = some arming := by
  unfold poll at sends
  grind [ends, refuse, send]

/-- A request tells whose tick has sent it. -/
theorem poll_of_waiting {event : Event} (sends : (c.step now event).2 = .waiting r) :
    r.poll = arming? event := by
  have kind := asking_of_waiting sends
  cases event with
  | start => exact start_poll sends
  | refresh => exact refresh_poll sends
  | submit answer => exact submit_poll sends
  | submitSelection =>
    have sends : (c.submitSelection now).2 = .waiting r := sends
    unfold submitSelection at sends
    split at sends
    · exact submit_poll sends
    · cases sends
  | submitText text => exact submit_poll sends
  | confirm => exact confirm_poll sends
  | poll arming => exact poll_poll sends
  | _ => cases kind

end Poll

section Poll

variable {c : Conversation}

theorem Books.refreshing_eq_false_iff (h : c.Books) :
    c.state.inFlight.refreshing = false ↔ c.unanswered .refresh = [] := by
  have count : c.state.refreshes = (c.unanswered .refresh).length := h.balanced.refreshes
  rw [h.balanced.refreshing, count, decide_eq_false_iff_not, Nat.not_lt, Nat.le_zero_eq,
    List.length_eq_zero_iff]

theorem Books.mayFetch_iff (h : c.Books) :
    c.MayFetch ↔ c.state.inFlight.refreshing = false ∧ c.wantsTimer = true := by
  rw [h.refreshing_eq_false_iff, wantsTimer_iff]
  constructor
  · rintro ⟨running, turn, visible, free⟩
    exact ⟨free, running, turn, visible⟩
  · rintro ⟨free, running, turn, visible⟩
    exact ⟨running, turn, visible, free⟩

/-- A tick that may fetch does so. -/
theorem MayFetch.poll_eq (may : c.MayFetch) (h : c.Books) (now arming : Nat) :
    ∃ s, c.state.session = some s ∧
      c.poll now arming =
        c.send now (refreshing c.state) (.get s.boardId s.id) (some arming) := by
  obtain ⟨free, wanted⟩ := h.mayFetch_iff.mp may
  obtain ⟨s, held⟩ := State.exists_session_of_awaitingAssistant may.turn
  exact ⟨s, held, poll_of_wantsTimer now arming free wanted held⟩

/-- The task of any other tick is over. -/
theorem Books.poll_of_not_mayFetch (h : c.Books) (mayNot : ¬ c.MayFetch) (now arming : Nat) :
    c.poll now arming = ({ c with timer := c.timer.finish arming }, .ended (.ok ())) := by
  have idle : (c.state.inFlight.refreshing || !c.wantsTimer) = true := by
    rw [h.mayFetch_iff] at mayNot
    cases busy : c.state.inFlight.refreshing with
    | true => rfl
    | false => simpa [busy] using mayNot
  unfold poll
  simp only [idle, if_true, ends]

theorem Books.poll_calls_iff (h : c.Books) (now arming : Nat) :
    (∃ r, (c.poll now arming).2 = .waiting r) ↔ c.MayFetch := by
  constructor
  · rintro ⟨r, sends⟩
    refine Classical.byContradiction fun mayNot => ?_
    rw [h.poll_of_not_mayFetch mayNot] at sends
    cases sends
  · intro may
    obtain ⟨s, -, fetches⟩ := may.poll_eq h now arming
    exact ⟨_, congrArg Prod.snd fetches⟩

end Poll

/-- The fetches of the ticks are refreshes, and at most one of an epoch is under way. -/
structure Sparing (c : Conversation) : Prop where
  refresh : ∀ r ∈ c.pending, r.poll.isSome = true → r.call.operation = .refresh
  single : ∀ epoch, (c.tickFetches epoch).length ≤ 1

theorem sparing_initial (boardId : String) (interval : Period) (page : Page) :
    (initial boardId interval page).Sparing where
  refresh := fun _ none => nomatch none
  single := fun _ => Nat.zero_le 1

section Sparing

variable {c : Conversation} {now : Nat} {event : Event} {r : Request}

/-- A request of a tick is sent when the tick may fetch, and gets the session that is held. -/
theorem Books.fetches (h : c.Books) (sends : (c.step now event).2 = .waiting r)
    (polled : r.poll.isSome = true) :
    ∃ arming s, event = .poll arming ∧ c.MayFetch ∧ c.state.session = some s ∧
      r = ⟨c.state.ledger.nextTicket .refresh, .get s.boardId s.id, some arming⟩ := by
  rw [poll_of_waiting sends] at polled
  cases event with
  | poll arming =>
    have may := (h.poll_calls_iff now arming).mp ⟨r, sends⟩
    obtain ⟨s, held, fetches⟩ := may.poll_eq h now arming
    have sends : (c.poll now arming).2 = .waiting r := sends
    rw [fetches] at sends
    cases sends
    exact ⟨arming, s, rfl, may, held, rfl⟩
  | _ => cases polled

/-- When no refresh of the epoch is unanswered, none of a tick is. -/
theorem Sparing.tickFetches_eq_nil (h : c.Sparing) (books : c.Books)
    (free : c.unanswered .refresh = []) : c.tickFetches c.state.ledger.epoch = [] := by
  rw [List.eq_nil_iff_forall_not_mem]
  intro r member
  obtain ⟨sent, kind⟩ := List.mem_filter.mp member
  rw [polledIn, Bool.and_eq_true, decide_eq_true_iff] at kind
  have counted : r ∈ c.unanswered .refresh :=
    mem_underWay.mpr ⟨sent, Ledger.sameEpoch_iff.mpr kind.2,
      (books.tracked.operation r sent).trans (h.refresh r sent kind.1)⟩
  rw [free] at counted
  cases counted

theorem tickFetches_step (tracked : Tracked c.state c.pending) (now : Nat) (event : Event)
    (epoch : Nat) :
    ((c.step now event).1.tickFetches epoch).length ≤ (c.tickFetches epoch).length +
      ((c.step now event).2.request?.toList.filter (polledIn epoch)).length := by
  unfold tickFetches
  rw [step_pending tracked, List.filter_append, List.length_append]
  exact Nat.add_le_add_right (List.filter_sublist.filter _).length_le _

theorem Sparing.step (h : c.Sparing) (books : c.Books) (now : Nat) (event : Event) :
    (c.step now event).1.Sparing where
  refresh := by
    intro r member polled
    rcases (step_changes now c event).mem_pending member with old | new
    · exact h.refresh r old polled
    · have sends := request?_eq_some.mp (Option.mem_toList.mp new)
      obtain ⟨arming, s, -, -, -, rfl⟩ := books.fetches sends polled
      rfl
  single := by
    intro epoch
    have old := h.single epoch
    have grows := tickFetches_step books.tracked now event epoch
    cases sends : (c.step now event).2.request? with
    | none =>
      rw [sends] at grows
      exact Nat.le_trans grows old
    | some r =>
      rw [sends, Option.toList_some] at grows
      have sends := request?_eq_some.mp sends
      by_cases new : polledIn epoch r = true
      · -- a tick only fetches when none of the epoch is under way
        rw [polledIn, Bool.and_eq_true, decide_eq_true_iff] at new
        obtain ⟨-, -, -, may, -⟩ := books.fetches sends new.1
        have none := h.tickFetches_eq_nil books may.free
        rw [← epoch_of_waiting sends, new.2] at none
        rw [none, List.length_nil, Nat.zero_add] at grows
        exact Nat.le_trans grows (List.length_filter_le _ _)
      · rw [List.filter_cons_of_neg new] at grows
        exact Nat.le_trans grows old

theorem Sparing.run (h : c.Sparing) (books : c.Books) (events : List (Nat × Event)) :
    (c.run events).Sparing :=
  books.keeps (fun _ now event books kept => kept.step books now event) h events

end Sparing

theorem tick_rests (now : Nat) (c : Conversation) : c.Rests (c.tick now) := by
  unfold tick
  split
  · exact ⟨rfl, rfl, rfl, rfl, fun _ => Outcome.noConfusion⟩
  · exact ⟨rfl, rfl, rfl, rfl, fun _ => Outcome.noConfusion⟩

theorem Books.poll_rests {c : Conversation} (h : c.Books) (mayNot : ¬ c.MayFetch)
    (now arming : Nat) : c.Rests (c.poll now arming) := by
  rw [h.poll_of_not_mayFetch mayNot]
  exact ⟨rfl, rfl, rfl, rfl, fun _ => Outcome.noConfusion⟩

/-- What the ticks fetch in a run, and after it. -/
structure Disciplined (c : Conversation) (events : List (Nat × Event)) : Prop where
  fetches : ∀ r ∈ c.sent events, r.poll.isSome = true →
    ∃ before now arming after s, events = before ++ (now, .poll arming) :: after ∧
      (c.run before).MayFetch ∧ (c.run before).state.session = some s ∧
      r = ⟨(c.run before).state.ledger.nextTicket .refresh, .get s.boardId s.id, some arming⟩
  allowed : ∀ now arming,
    (∃ r, ((c.run events).step now (.poll arming)).2 = .waiting r) ↔ (c.run events).MayFetch
  single : ∀ epoch, ((c.run events).tickFetches epoch).length ≤ 1
  rests : ∀ now arming, (∀ r, ((c.run events).step now (.poll arming)).2 ≠ .waiting r) →
    (c.run events).Rests ((c.run events).step now (.poll arming))
  ticks : ∀ now, (c.run events).Rests ((c.run events).step now .tick)
  quiet : (c.run events).state.phase = .awaitingUserAnswer → ∀ now arming r,
    ((c.run events).step now (.poll arming)).2 ≠ .waiting r

/-- In every run, whatever ticks are due and whatever tasks are about, a tick fetches just when the
assistant is awaited on a visible page and no refresh of the epoch is unanswered, and does nothing
otherwise; so at most one fetch of theirs is under way in an epoch. -/
theorem run_disciplined (boardId : String) (interval : Period) (page : Page)
    (events : List (Nat × Event)) : (initial boardId interval page).Disciplined events := by
  have start := books_initial boardId interval page
  have books := start.run events
  have sparing := (sparing_initial boardId interval page).run start events
  refine ⟨?_, fun now arming => books.poll_calls_iff now arming, sparing.single, ?_,
    fun now => tick_rests now _, ?_⟩
  · intro r member polled
    obtain ⟨before, now, event, after, split, sends⟩ := exists_of_mem_sent events member
    obtain ⟨arming, s, rfl, may, held, request⟩ := (start.run before).fetches sends polled
    exact ⟨before, now, arming, after, s, split, may, held, request⟩
  · intro now arming silent
    refine books.poll_rests (fun may => ?_) now arming
    obtain ⟨r, sends⟩ := (books.poll_calls_iff now arming).mpr may
    exact silent r sends
  · intro turn now arming r sends
    have awaited := ((books.poll_calls_iff now arming).mp ⟨r, sends⟩).turn
    rw [turn] at awaited
    cases awaited

/-- The page is hidden and shown again while the fetch of a tick is under way. -/
def overlapping : List (Nat × Event) :=
  [(0, .start), (0, .reply 1 (.ok unspoken)), (2000, .tick), (2000, .poll 1),
    (2500, .setPage false), (2500, .attendPage), (2600, .setPage true), (2600, .attendPage),
    (4600, .tick), (4600, .poll 2)]

/-- The tick of the new arming leaves it to the fetch of the old one. -/
example :
    (((initial "b" usual (.start .pushing true)).run overlapping).tickFetches 0).map (·.poll) =
      [some 1] := by
  decide +kernel

end Dialogue.Conversation
