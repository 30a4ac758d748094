import Dialogue.Proofs.Conversation.Accounting
import Dialogue.Proofs.Conversation.Alike
import Dialogue.Proofs.Conversation.Commit

/-! # Epochs

A change of the board and the end of a conversation start a new epoch. A request that was sent
before is of no account any more: its reply, whatever it is and whenever it comes, leaves the state
and the view as they are, so that two runs that differ in such replies only cannot be told apart.
Once a conversation has been ended, nothing that happens does anything to it. -/

namespace Dialogue.Conversation

/-- The event starts a new epoch: it turns a running conversation to another board, or ends it. -/
def Renews (c : Conversation) : Event → Prop
  | .switchBoard boardId => c.state.shutDown = false ∧ c.state.boardId ≠ boardId
  | .shutdown => c.state.shutDown = false
  | _ => False

/-- A new epoch has been started since the run sent the request. -/
def Bygone (c : Conversation) (events : List (Nat × Event)) (r : Request) : Prop :=
  ∃ before now event after, events = before ++ (now, event) :: after ∧ r ∈ c.sent before ∧
    (c.run before).Renews event

/-- The events of a run but for the replies that come too late. -/
def timely (c : Conversation) : List (Nat × Event) → List Event
  | [] => []
  | (now, event) :: rest =>
    if c.late event then (c.step now event).1.timely rest
    else event :: (c.step now event).1.timely rest

section Epoch

variable {c : Conversation} {event : Event} {st' : State} {pending' : List Request}
  {request : Option Request}

theorem Change.epoch_of_renews (change : Change c.state c.pending event st' pending' request)
    (renews : c.Renews event) : st'.ledger.epoch = c.state.ledger.epoch + 1 := by
  cases change with
  | nothing idle =>
    cases event with
    | switchBoard boardId =>
      rcases idle with ended | same
      · rw [renews.1] at ended
        cases ended
      · exact absurd same renews.2
    | shutdown =>
      have running : c.state.shutDown = false := renews
      rw [idle] at running
      cases running
    | _ => exact absurd renews id
  | asked kind asks =>
    cases event with
    | switchBoard boardId => cases kind
    | shutdown => cases kind
    | _ => exact absurd renews id
  | selected running turn offered => exact absurd renews id
  | cleared running free => exact absurd renews id
  | moved running other => rfl
  | closed running => rfl
  | replied sent takes => exact absurd renews id

theorem Change.epoch_of_not_renews (change : Change c.state c.pending event st' pending' request)
    (stays : ¬ c.Renews event) : st'.ledger.epoch = c.state.ledger.epoch := by
  cases change with
  | nothing idle => rfl
  | asked kind asks =>
    show (Ledger.issue _ _).epoch = _
    rw [asks.ledger]
    rfl
  | selected running turn offered => rfl
  | cleared running free => rw [cleared_ledger]
  | moved running other => exact absurd ⟨running, other⟩ stays
  | closed running => exact absurd running stays
  | replied sent takes => rw [takes.ledger]

/-- Epochs only grow. -/
theorem epoch_le_run (c : Conversation) (events : List (Nat × Event)) :
    c.state.ledger.epoch ≤ (c.run events).state.ledger.epoch := by
  refine run_keeps (P := fun c' => c.state.ledger.epoch ≤ c'.state.ledger.epoch) ?_ events c
    (Nat.le_refl _)
  intro c' now event less
  have change := step_changes now c' event
  by_cases renews : c'.Renews event
  · rw [change.epoch_of_renews renews]
    exact Nat.le_succ_of_le less
  · rw [change.epoch_of_not_renews renews]
    exact less

/-- The epoch that a run has left behind was ended by one of its events. -/
theorem exists_renews {events : List (Nat × Event)}
    (changed : (c.run events).state.ledger.epoch ≠ c.state.ledger.epoch) :
    ∃ before now event after, events = before ++ (now, event) :: after ∧
      (c.run before).Renews event := by
  rcases run_turns (P := fun c' => c'.state.ledger.epoch ≠ c.state.ledger.epoch) events changed with
    always | ⟨before, now, event, after, split, same, differs⟩
  · exact absurd rfl (always [] events rfl)
  · refine ⟨before, now, event, after, split, Classical.byContradiction fun stays => same ?_⟩
    have change := step_changes now (c.run before) event
    rw [← change.epoch_of_not_renews stays]
    exact differs [] after rfl

/-- An event that sends a request starts no epoch. -/
theorem epoch_of_sends {now : Nat} {event : Event} {r : Request}
    (sends : (c.step now event).2 = .waiting r) :
    (c.step now event).1.state.ledger.epoch = c.state.ledger.epoch := by
  have change := step_changes now c event
  rw [sends] at change
  rcases change.ledger with ⟨silent, -⟩ | ⟨call, poll, -, issued⟩
  · cases silent
  · rw [issued]
    rfl

/-- A request is of an earlier epoch just when an epoch has been started since it was sent. -/
theorem bygone_iff {events : List (Nat × Event)} {r : Request} (member : r ∈ c.sent events) :
    (c.run events).state.ledger.sameEpoch r.ticket = false ↔ c.Bygone events r := by
  rw [← Bool.not_eq_true, Ledger.sameEpoch_iff]
  constructor
  · intro passed
    obtain ⟨before, now, event, after, split, sends⟩ := exists_of_mem_sent events member
    have same : ((c.run before).step now event).1.state.ledger.epoch = r.ticket.epoch :=
      (epoch_of_sends sends).trans (epoch_of_waiting sends).symm
    rw [split, run_append, run_cons, ← same] at passed
    obtain ⟨between, now', event', later, split', renews⟩ := exists_renews (Ne.symm passed)
    refine ⟨before ++ (now, event) :: between, now', event', later, ?_, ?_, ?_⟩
    · rw [split, split', List.append_assoc]
      rfl
    · rw [sent_append, sent, sends]
      exact List.mem_append_right _ (List.mem_append_left _ (List.mem_singleton_self r))
    · rw [run_append, run_cons]
      exact renews
  · rintro ⟨before, now, event, after, split, sent, renews⟩ same
    obtain ⟨first, now', event', between, split', sends⟩ := exists_of_mem_sent before sent
    have change := step_changes now (c.run before) event
    have later := epoch_le_run ((c.run before).step now event).1 after
    rw [change.epoch_of_renews renews, ← run_cons, ← run_append, ← split, ← same] at later
    have earlier := epoch_le_run (c.run first) ((now', event') :: between)
    rw [← run_append, ← split', ← epoch_of_waiting sends] at earlier
    omega

end Epoch

/-- A conversation that has been ended has no request of its epoch under way, and no timer. -/
structure Ended (c : Conversation) : Prop where
  gone : c.state.shutDown = true → ∀ r ∈ c.pending, c.state.ledger.sameEpoch r.ticket = false
  disarmed : c.state.shutDown = true → c.timer.isArmed = false

theorem ended_initial (boardId : String) (interval : Period) (page : Page) :
    (initial boardId interval page).Ended where
  gone := fun ended => by cases ended
  disarmed := fun ended => by cases ended

section Ended

variable {c : Conversation} {event : Event} {st st' : State} {pending pending' : List Request}
  {request : Option Request}

/-- Nothing happens to a conversation that has been ended. -/
theorem Change.eq_of_shutDown (change : Change st pending event st' pending' request)
    (ended : st.shutDown = true)
    (gone : ∀ r ∈ pending, st.ledger.sameEpoch r.ticket = false) :
    st' = st ∧ request = none := by
  have stopped : st.shutDown ≠ false := by
    rw [ended]
    exact Bool.noConfusion
  cases change with
  | nothing idle => exact ⟨rfl, rfl⟩
  | asked kind asks => exact absurd asks.running stopped
  | selected running turn offered => exact absurd running stopped
  | cleared running free => exact absurd running stopped
  | moved running other => exact absurd running stopped
  | closed running => exact absurd running stopped
  | replied sent takes => exact ⟨takes.eq_of_old (gone _ sent), rfl⟩

/-- The end of a conversation leaves no request of its epoch under way. -/
theorem Change.gone (change : Change st pending event st' pending' request)
    (tracked : Tracked st pending)
    (gone : st.shutDown = true → ∀ r ∈ pending, st.ledger.sameEpoch r.ticket = false)
    (ended : st'.shutDown = true) : ∀ r ∈ pending', st'.ledger.sameEpoch r.ticket = false := by
  cases change with
  | nothing idle => exact gone ended
  | asked kind asks =>
    have running := asks.shutDown.trans asks.running
    rw [show _ = true from ended] at running
    cases running
  | selected running turn offered => exact gone ended
  | cleared running free =>
    rw [cleared_shutDown, running] at ended
    cases ended
  | moved running other => cases ended
  | closed running => exact fun r sent => Ledger.sameEpoch_invalidateAll (tracked.covers r sent)
  | replied sent takes =>
    rw [takes.shutDown] at ended
    rw [takes.ledger]
    exact fun r member => gone ended r (List.mem_of_mem_erase member)

theorem Ended.step (h : c.Ended) (tracked : Tracked c.state c.pending) (now : Nat)
    (event : Event) : (c.step now event).1.Ended where
  gone := (step_changes now c event).gone tracked h.gone
  disarmed := by
    intro ended
    have unwanted : (c.step now event).1.wantsTimer = false := by
      rw [wantsTimer, ended]
      rfl
    cases step_settles now c event with
    | committed published page view armed => rw [armed, unwanted]
    | attended news published state view page armed => rw [armed, unwanted]
    | rested published state view page armed =>
      rw [state] at ended
      rw [armed, h.disarmed ended]

end Ended

/-- What every conversation of a run has: exact books, a view of its state, and nothing under way
once it has been ended. -/
structure Sound (c : Conversation) : Prop where
  books : c.Books
  view : c.view = c.state.view
  ended : c.Ended

theorem sound_initial (boardId : String) (interval : Period) (page : Page) :
    (initial boardId interval page).Sound :=
  ⟨books_initial boardId interval page, rfl, ended_initial boardId interval page⟩

section Sound

variable {c d : Conversation}

theorem Sound.step (h : c.Sound) (now : Nat) (event : Event) : (c.step now event).1.Sound where
  books := h.books.step now event
  view := (step_settles now c event).view_eq h.view
  ended := h.ended.step h.books.tracked now event

theorem Sound.run (h : c.Sound) (events : List (Nat × Event)) : (c.run events).Sound :=
  run_keeps (fun _ now event kept => kept.step now event) events c h

/-- A run and its timely events lead to alike conversations. -/
theorem run_alike (events : List (Nat × Event)) :
    ∀ {c d : Conversation}, c.Sound → d.Sound → c.Alike d →
      (c.run events).Alike (d.run ((c.timely events).map fun event => (0, event))) := by
  induction events with
  | nil => exact fun _ _ alike => alike
  | cons first rest ih =>
    intro c d h h' alike
    obtain ⟨now, event⟩ := first
    rw [run_cons, timely]
    split
    · rename_i late
      have same := late_alike h.books.tracked late now
      exact ih (h.step now event) h' (same.symm.trans alike)
    · rename_i late
      rw [Bool.not_eq_true] at late
      rw [List.map_cons, run_cons]
      apply ih (h.step now event) (h'.step 0 event)
      exact step_alike alike h.books.tracked h'.books.tracked late now 0

/-- Runs of the same timely events lead to alike conversations. -/
theorem alike_of_timely (h : c.Sound) {events other : List (Nat × Event)}
    (same : c.timely events = c.timely other) : (c.run events).Alike (c.run other) := by
  have left := run_alike events h h (alike_refl c)
  have right := run_alike other h h (alike_refl c)
  rw [same] at left
  exact left.trans right.symm

/-- A conversation that has been ended stays as it is, and sends nothing. -/
theorem Sound.run_of_shutDown (events : List (Nat × Event)) :
    ∀ {c : Conversation}, c.Sound → c.state.shutDown = true →
      (c.run events).state = c.state ∧ c.sent events = [] := by
  induction events with
  | nil => exact fun _ _ => ⟨rfl, rfl⟩
  | cons first rest ih =>
    intro c h ended
    obtain ⟨now, event⟩ := first
    obtain ⟨same, silent⟩ :=
      (step_changes now c event).eq_of_shutDown ended (h.ended.gone ended)
    obtain ⟨same', silent'⟩ := ih (h.step now event) (by rw [same]; exact ended)
    rw [run_cons, sent, silent, silent', same', same]
    exact ⟨rfl, rfl⟩

end Sound

/-- How the requests of earlier epochs, and the end, set a run apart from what comes after. -/
structure SetsApart (c : Conversation) (events : List (Nat × Event)) : Prop where
  bygone : ∀ r ∈ c.sent events,
    ((c.run events).state.ledger.sameEpoch r.ticket = false ↔ c.Bygone events r)
  dropped : ∀ r ∈ (c.run events).pending, c.Bygone events r → ∀ now reply,
    ((c.run events).step now (.reply r.ticket.seq reply)).1.state = (c.run events).state ∧
      ((c.run events).step now (.reply r.ticket.seq reply)).1.view = (c.run events).view ∧
      ((c.run events).step now (.reply r.ticket.seq reply)).1.told = (c.run events).told ∧
      ((c.run events).step now (.reply r.ticket.seq reply)).2 = .ended (.ok ())
  alike : ∀ other, c.timely events = c.timely other →
    (c.run events).state = (c.run other).state ∧ (c.run events).view = (c.run other).view ∧
      (c.run events).told = (c.run other).told
  ended : (c.run events).state.shutDown = true → ∀ later,
    ((c.run events).run later).state = (c.run events).state ∧ (c.run events).sent later = [] ∧
      ((c.run events).run later).timer.isArmed = false

theorem Bygone.mem_sent {c : Conversation} {events : List (Nat × Event)} {r : Request}
    (h : c.Bygone events r) : r ∈ c.sent events := by
  obtain ⟨before, now, event, after, split, member, -⟩ := h
  rw [split, sent_append]
  exact List.mem_append_left _ member

theorem Sound.setsApart {c : Conversation} (h : c.Sound) (events : List (Nat × Event)) :
    c.SetsApart events where
  bygone := fun r member => bygone_iff member
  dropped := by
    intro r pending bygone now reply
    have sound := h.run events
    have old := (bygone_iff bygone.mem_sent).mpr bygone
    obtain ⟨alike, outcome⟩ := reply_of_old sound.books.tracked pending old now reply
    refine ⟨alike.state, ?_, alike.told, outcome⟩
    rw [(sound.step now _).view, sound.view]
    exact congrArg State.view alike.state
  alike := by
    intro other same
    have alike := alike_of_timely h same
    refine ⟨alike.state.symm, ?_, alike.told.symm⟩
    rw [(h.run events).view, (h.run other).view, alike.state]
  ended := by
    intro ended later
    have sound := h.run events
    obtain ⟨same, silent⟩ := sound.run_of_shutDown later ended
    refine ⟨same, silent, ?_⟩
    apply (sound.run later).ended.disarmed
    rw [same]
    exact ended

/-- In every run, the replies to the requests of earlier epochs change nothing: not the state, nor
the view, nor what the host is told, and neither do their contents, their order and their moments
show in what comes after. Once the conversation has been ended, nothing does. -/
theorem run_setsApart (boardId : String) (interval : Period) (page : Page)
    (events : List (Nat × Event)) : (initial boardId interval page).SetsApart events :=
  (sound_initial boardId interval page).setsApart events

/-- An answer is under way while the conversation is turned away from its board and back. -/
def thereAndBack : List (Nat × Event) :=
  opening ++ [(0, .submitText "Growth"), (0, .switchBoard "c"), (0, .switchBoard "b"), (0, .start),
    (0, .reply 3 (.ok (questioned .active)))]

/-- The reply to that answer makes no difference, although it is about the present session. -/
example : (initial "b" usual (.start .alwaysActive true)).timely thereAndBack =
    (initial "b" usual (.start .alwaysActive true)).timely
      (thereAndBack ++ [(0, .reply 2 (.ok (questioned .confirmed)))]) := by
  rfl

end Dialogue.Conversation
