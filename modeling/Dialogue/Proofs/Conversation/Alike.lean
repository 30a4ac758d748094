import Dialogue.Proofs.Conversation.Course
import Dialogue.Proofs.Conversation.Requests

/-! # Conversations that differ in old requests

Two conversations are alike when they agree on all that decides what happens next: the state, the
page, the callback, and the requests of the present epoch that are under way. They may differ in
the requests of earlier epochs and in the timer. An event makes alike conversations of alike ones,
unless it is a reply that neither of them waits for. -/

namespace Dialogue.Conversation

/-- The requests of the present epoch among those under way. -/
def present (st : State) (pending : List Request) : List Request :=
  pending.filter fun r => st.ledger.sameEpoch r.ticket

section Present

variable {st st' : State} {pending : List Request}

theorem mem_present {r : Request} :
    r ∈ present st pending ↔ r ∈ pending ∧ st.ledger.sameEpoch r.ticket = true := by
  rw [present, List.mem_filter]

theorem present_congr (epoch : st'.ledger.epoch = st.ledger.epoch) (pending : List Request) :
    present st' pending = present st pending := by
  unfold present Ledger.sameEpoch
  rw [epoch]

theorem present_concat {r : Request} (epoch : st.ledger.sameEpoch r.ticket = true) :
    present st (pending ++ [r]) = present st pending ++ [r] := by
  unfold present
  rw [List.filter_append]
  congr 1
  exact List.filter_cons_of_pos epoch

theorem present_erase (r : Request) :
    present st (pending.erase r) = (present st pending).erase r :=
  List.erase_filter.symm

theorem present_invalidateAll (h : Tracked st pending)
    (ledger : st'.ledger = st.ledger.invalidateAll) : present st' pending = [] := by
  rw [List.eq_nil_iff_forall_not_mem]
  intro r member
  obtain ⟨sent, epoch⟩ := mem_present.mp member
  rw [ledger, Ledger.sameEpoch_invalidateAll (h.covers r sent)] at epoch
  cases epoch

end Present

/-- The conversations agree on all that decides what happens next. -/
structure Alike (c d : Conversation) : Prop where
  state : d.state = c.state
  page : d.page = c.page
  callback : d.callback = c.callback
  told : d.told = c.told
  present : present d.state d.pending = present c.state c.pending

section Alike

variable {c d e : Conversation} {now now' : Nat}

theorem alike_refl (c : Conversation) : c.Alike c := ⟨rfl, rfl, rfl, rfl, rfl⟩

theorem Alike.symm (h : c.Alike d) : d.Alike c :=
  ⟨h.state.symm, h.page.symm, h.callback.symm, h.told.symm, h.present.symm⟩

theorem Alike.trans (h : c.Alike d) (h' : d.Alike e) : c.Alike e :=
  ⟨h'.state.trans h.state, h'.page.trans h.page, h'.callback.trans h.callback,
    h'.told.trans h.told, h'.present.trans h.present⟩

theorem Alike.pending (h : c.Alike d) :
    Conversation.present c.state d.pending = Conversation.present c.state c.pending := by
  have same := h.present
  rw [h.state] at same
  exact same

/-- The timer does not matter. -/
theorem Alike.timer (h : c.Alike d) (timer timer' : Timer Unit) :
    Alike { c with timer := timer } { d with timer := timer' } :=
  ⟨h.state, h.page, h.callback, h.told, h.present⟩

theorem Alike.wantsTimer (h : c.Alike d) : d.wantsTimer = c.wantsTimer := by
  unfold Conversation.wantsTimer
  rw [h.state, h.page]

/-- The same change, within the epoch. -/
theorem Alike.change (h : c.Alike d) {st : State}
    (epoch : st.ledger.epoch = c.state.ledger.epoch) :
    (c.change now st).Alike (d.change now' st) where
  state := rfl
  page := h.page
  callback := h.callback
  told := h.told
  present :=
    (present_congr epoch d.pending).trans (h.pending.trans (present_congr epoch c.pending).symm)

/-- The same change, to a new epoch. -/
theorem Alike.invalidateAll (h : c.Alike d) (tracked : Tracked c.state c.pending)
    (tracked' : Tracked d.state d.pending) {st : State}
    (ledger : st.ledger = c.state.ledger.invalidateAll) :
    (c.change now st).Alike (d.change now' st) where
  state := rfl
  page := h.page
  callback := h.callback
  told := h.told
  present := by
    rw [h.state] at tracked'
    exact (present_invalidateAll tracked' ledger).trans (present_invalidateAll tracked ledger).symm

/-- The same request. -/
theorem Alike.send (h : c.Alike d) {st : State} (ledger : st.ledger = c.state.ledger) (call : Call)
    (poll : Option Nat) : (c.send now st call poll).1.Alike (d.send now' st call poll).1 where
  state := rfl
  page := h.page
  callback := h.callback
  told := h.told
  present := by
    have issued : (st.ledger.issue call.operation).sameEpoch
        (st.ledger.nextTicket call.operation) = true := Ledger.sameEpoch_iff.mpr rfl
    have epoch : (st.ledger.issue call.operation).epoch = c.state.ledger.epoch := by
      rw [ledger]
      rfl
    have added : ∀ pending : List Request,
        Conversation.present { st with ledger := st.ledger.issue call.operation }
            (pending ++ [⟨st.ledger.nextTicket call.operation, call, poll⟩]) =
          Conversation.present c.state pending ++
            [⟨st.ledger.nextTicket call.operation, call, poll⟩] := by
      intro pending
      rw [present_concat issued]
      congr 1
      exact present_congr epoch pending
    exact (added d.pending).trans (by rw [h.pending, ← added]; rfl)

theorem Alike.tellHost (h : c.Alike d) : c.tellHost.Alike d.tellHost := by
  unfold Conversation.tellHost
  rw [h.callback]
  split
  · exact ⟨h.state, h.page, rfl, by rw [h.told], h.present⟩
  · exact h

theorem Alike.finishPoll (h : c.Alike d) (r : Request) :
    (c.finishPoll r).Alike (d.finishPoll r) := by
  unfold Conversation.finishPoll
  split
  · exact h.timer _ _
  · exact h

theorem finishPoll_alike (c : Conversation) (r : Request) : c.Alike (c.finishPoll r) := by
  unfold Conversation.finishPoll
  split
  · exact ⟨rfl, rfl, rfl, rfl, rfl⟩
  · exact alike_refl c

theorem start_alike (h : c.Alike d) : (c.start now).1.Alike (d.start now').1 := by
  unfold start
  dsimp only
  rw [h.state]
  split
  · exact h
  · split
    · exact h
    · exact h.send (by rfl) _ _

theorem refresh_alike (h : c.Alike d) : (c.refresh now).1.Alike (d.refresh now').1 := by
  unfold refresh
  dsimp only
  rw [h.state]
  split
  · exact h
  · split
    · exact h
    · exact h.send (by rfl) _ _

theorem poll_alike (h : c.Alike d) (arming : Nat) :
    (c.poll now arming).1.Alike (d.poll now' arming).1 := by
  unfold poll
  dsimp only
  rw [h.state, h.wantsTimer]
  split
  · exact ⟨rfl, h.page, h.callback, h.told, h.pending⟩
  · split
    · exact ⟨rfl, h.page, h.callback, h.told, h.pending⟩
    · exact h.send (by rfl) _ _

theorem submit_alike (h : c.Alike d) (answer : Answer) :
    (c.submit now answer).1.Alike (d.submit now' answer).1 := by
  unfold submit
  dsimp only
  rw [h.state]
  split
  · exact h
  · split
    · exact h
    · split
      · exact h
      · split
        · exact h
        · exact h
        · exact h.send (by rfl) _ _

theorem select_alike (h : c.Alike d) (label : String) :
    (c.select now label).1.Alike (d.select now' label).1 := by
  unfold select
  dsimp only
  rw [h.state]
  split
  · exact h
  · split
    · exact h
    · split
      · exact h
      · exact h.change rfl

theorem submitSelection_alike (h : c.Alike d) :
    (c.submitSelection now).1.Alike (d.submitSelection now').1 := by
  unfold submitSelection
  rw [h.state]
  split
  · exact submit_alike h _
  · exact h

theorem submitText_alike (h : c.Alike d) (text : String) :
    (c.submitText now text).1.Alike (d.submitText now' text).1 := by
  unfold submitText
  rw [h.state]
  exact submit_alike h _

theorem confirm_alike (h : c.Alike d) : (c.confirm now).1.Alike (d.confirm now').1 := by
  unfold confirm
  dsimp only
  rw [h.state]
  split
  · exact h
  · split
    · exact h
    · split
      · exact h
      · split
        · exact h
        · split
          · exact h
          · exact h.send (by rfl) _ _

theorem clearError_fst (now : Nat) (c : Conversation) :
    (c.clearError now).1 =
      if c.state.shutDown then c
      else if c.state.inFlight.starting || c.state.inFlight.submitting ||
        c.state.inFlight.confirming then c
      else c.change now (cleared c.state) := by
  unfold clearError
  dsimp only
  split
  · rfl
  · split
    · rfl
    · split
      · rfl
      · rfl

theorem clearError_alike (h : c.Alike d) : (c.clearError now).1.Alike (d.clearError now').1 := by
  have epoch : (cleared c.state).ledger.epoch = c.state.ledger.epoch := by rw [cleared_ledger]
  rw [clearError_fst, clearError_fst, h.state]
  split
  · exact h
  · split
    · exact h
    · exact h.change epoch

theorem switchBoard_alike (h : c.Alike d) (tracked : Tracked c.state c.pending)
    (tracked' : Tracked d.state d.pending) (boardId : String) :
    (c.switchBoard now boardId).1.Alike (d.switchBoard now' boardId).1 := by
  unfold switchBoard
  dsimp only
  rw [h.state]
  split
  · exact h
  · split
    · exact h
    · exact (h.timer c.timer.disarm d.timer.disarm).invalidateAll tracked tracked' (by rfl)

theorem shutdown_alike (h : c.Alike d) (tracked : Tracked c.state c.pending)
    (tracked' : Tracked d.state d.pending) : (c.shutdown now).1.Alike (d.shutdown now').1 := by
  unfold shutdown
  rw [h.state]
  split
  · exact h
  · exact (h.invalidateAll tracked tracked' (by rfl)).timer _ _

theorem tick_alike (h : c.Alike d) : (c.tick now).1.Alike (d.tick now').1 := by
  unfold tick
  split
  · split
    · exact h
    · exact h.timer _ _
  · split
    · exact h.timer _ _
    · exact h.timer _ _

theorem attendPage_alike (h : c.Alike d) : (c.attendPage now).Alike (d.attendPage now') := by
  unfold attendPage
  rw [h.page]
  split
  · exact ⟨h.state, rfl, h.callback, h.told, h.present⟩
  · exact h

theorem replyStart_alike (h : c.Alike d) (t : Ticket) (b : String) (reply : Reply) :
    (c.replyStart now t b reply).1.Alike (d.replyStart now' t b reply).1 := by
  unfold replyStart
  rw [h.state]
  split
  · exact h
  · dsimp only
    split
    · exact h.change (by rfl)
    · exact h.change (by rfl)

theorem replyRefresh_alike (h : c.Alike d) (t : Ticket) (reply : Reply) :
    (c.replyRefresh now t reply).1.Alike (d.replyRefresh now' t reply).1 := by
  have epoch : (c.state.finishRefresh t).ledger.epoch = c.state.ledger.epoch := by
    rw [State.finishRefresh_ledger]
  unfold replyRefresh
  dsimp only
  rw [h.state]
  split
  · exact h.change epoch
  · split
    · rename_i s
      refine h.change ?_
      cases (c.state.finishRefresh t).acceptsRefresh s with
      | true => exact epoch
      | false => exact epoch
    · exact h.change epoch

theorem replyAnswer_alike (h : c.Alike d) (t : Ticket) (b i : String) (reply : Reply) :
    (c.replyAnswer now t b i reply).1.Alike (d.replyAnswer now' t b i reply).1 := by
  unfold replyAnswer
  rw [h.state]
  split
  · exact h
  · dsimp only
    split
    · exact h.change (by rfl)
    · exact h.change (by rfl)

theorem replyConfirm_alike (h : c.Alike d) (t : Ticket) (b i : String) (reply : Reply) :
    (c.replyConfirm now t b i reply).1.Alike (d.replyConfirm now' t b i reply).1 := by
  unfold replyConfirm
  rw [h.state]
  split
  · exact h
  · dsimp only
    split
    · exact (h.change (by rfl)).tellHost
    · exact h.change (by rfl)

theorem replyTo_alike (h : c.Alike d) (r : Request) (reply : Reply) :
    (c.replyTo now r reply).1.Alike (d.replyTo now' r reply).1 := by
  unfold replyTo
  split
  · exact replyStart_alike h _ _ reply
  · exact replyRefresh_alike h _ reply
  · exact replyAnswer_alike h _ _ _ reply
  · exact replyConfirm_alike h _ _ _ reply

theorem without_alike (h : c.Alike d) (r : Request) : (c.without r).Alike (d.without r) where
  state := h.state
  page := h.page
  callback := h.callback
  told := h.told
  present := by
    show Conversation.present d.state (d.pending.erase r) =
      Conversation.present c.state (c.pending.erase r)
    rw [present_erase, present_erase, h.present]

/-- The reply to a request under way is taken for that request. -/
theorem reply_of_mem (tracked : Tracked c.state c.pending) {r : Request} (sent : r ∈ c.pending)
    (now : Nat) (reply : Reply) :
    c.reply now r.ticket.seq reply =
      (((c.without r).replyTo now r reply).1.finishPoll r,
        ((c.without r).replyTo now r reply).2) := by
  have found : c.pending.find? (·.ticket.seq = r.ticket.seq) = some r := by
    cases search : c.pending.find? (·.ticket.seq = r.ticket.seq) with
    | none => exact absurd (decide_eq_true rfl) (List.find?_eq_none.mp search r sent)
    | some r' =>
      have numbered : r'.ticket.seq = r.ticket.seq := by simpa using List.find?_some search
      rw [tracked.eq_of_seq (List.mem_of_find?_eq_some search) sent numbered]
  unfold Conversation.reply
  rw [found]
  rfl

/-- The reply to a request of the present epoch. -/
theorem reply_alike (h : c.Alike d) (tracked : Tracked c.state c.pending)
    (tracked' : Tracked d.state d.pending) {r : Request}
    (member : r ∈ Conversation.present c.state c.pending) (reply : Reply) :
    (c.reply now r.ticket.seq reply).1.Alike (d.reply now' r.ticket.seq reply).1 := by
  have member' : r ∈ Conversation.present d.state d.pending := by
    rw [h.present]
    exact member
  rw [reply_of_mem tracked (mem_present.mp member).1,
    reply_of_mem tracked' (mem_present.mp member').1]
  exact (replyTo_alike (without_alike h r) r reply).finishPoll r

end Alike

/-- Whether an event is a reply for which no request of the present epoch waits. -/
def late (c : Conversation) : Event → Bool
  | .reply seq _ => !(present c.state c.pending).any fun r => r.ticket.seq = seq
  | _ => false

/-- The reply to a request of an earlier epoch is dropped, after a commit if it is a refresh. -/
theorem replyTo_of_old {c : Conversation} {r : Request}
    (old : c.state.ledger.sameEpoch r.ticket = false) (now : Nat) (reply : Reply) :
    c.replyTo now r reply =
      (if r.call.operation = .refresh then c.change now c.state else c, .ended (.ok ())) := by
  have late : c.state.ledger.isCurrent r.ticket = false := Ledger.isCurrent_of_old old
  have finished : c.state.finishRefresh r.ticket = c.state := State.finishRefresh_of_old old
  unfold replyTo
  split
  · rename_i b call
    unfold replyStart
    rw [late, call]
    rfl
  · rename_i b i call
    unfold replyRefresh
    dsimp only
    rw [finished, late, call]
    rfl
  · rename_i b i answer call
    unfold replyAnswer
    rw [late, call]
    rfl
  · rename_i b i call
    unfold replyConfirm
    rw [late, call]
    rfl

/-- The reply to a request of an earlier epoch changes nothing that matters. -/
theorem reply_of_old {c : Conversation} (tracked : Tracked c.state c.pending) {r : Request}
    (sent : r ∈ c.pending) (old : c.state.ledger.sameEpoch r.ticket = false) (now : Nat)
    (reply : Reply) :
    c.Alike (c.reply now r.ticket.seq reply).1 ∧
      (c.reply now r.ticket.seq reply).2 = .ended (.ok ()) := by
  have absent : r ∉ present c.state c.pending := by
    intro member
    rw [(mem_present.mp member).2] at old
    cases old
  have alike : c.Alike (c.without r) := by
    refine ⟨rfl, rfl, rfl, rfl, ?_⟩
    show present c.state (c.pending.erase r) = present c.state c.pending
    rw [present_erase, List.erase_of_not_mem absent]
  have kept : c.Alike (if r.call.operation = .refresh then (c.without r).change now c.state
      else c.without r) := by
    split
    · exact alike.trans ⟨rfl, rfl, rfl, rfl, rfl⟩
    · exact alike
  have old' : (c.without r).state.ledger.sameEpoch r.ticket = false := old
  have dropped := replyTo_of_old old' now reply
  rw [reply_of_mem tracked sent, dropped]
  exact ⟨kept.trans (finishPoll_alike _ r), rfl⟩

/-- An event that comes too late changes nothing that matters. -/
theorem late_alike {c : Conversation} (tracked : Tracked c.state c.pending) {event : Event}
    (late : c.late event = true) (now : Nat) : c.Alike (c.step now event).1 := by
  cases event with
  | reply seq reply =>
    show c.Alike (c.reply now seq reply).1
    cases search : c.pending.find? (·.ticket.seq = seq) with
    | none =>
      unfold Conversation.reply
      rw [search]
      exact alike_refl c
    | some r =>
      have sent : r ∈ c.pending := List.mem_of_find?_eq_some search
      have numbered : r.ticket.seq = seq := by simpa using List.find?_some search
      subst numbered
      refine (reply_of_old tracked sent ?_ now reply).1
      rw [← Bool.not_eq_true]
      intro same
      have awaited : (present c.state c.pending).any (fun other =>
          other.ticket.seq = r.ticket.seq) = true :=
        List.any_eq_true.mpr ⟨r, mem_present.mpr ⟨sent, same⟩, decide_eq_true rfl⟩
      rw [Conversation.late, awaited] at late
      cases late
  | _ => cases late

/-- Any other event makes alike conversations of alike ones. -/
theorem step_alike {c d : Conversation} (h : c.Alike d) (tracked : Tracked c.state c.pending)
    (tracked' : Tracked d.state d.pending) {event : Event} (timely : c.late event = false)
    (now now' : Nat) : (c.step now event).1.Alike (d.step now' event).1 := by
  cases event with
  | start => exact start_alike h
  | refresh => exact refresh_alike h
  | submit answer => exact submit_alike h answer
  | select label => exact select_alike h label
  | submitSelection => exact submitSelection_alike h
  | submitText text => exact submitText_alike h text
  | confirm => exact confirm_alike h
  | clearError => exact clearError_alike h
  | switchBoard boardId => exact switchBoard_alike h tracked tracked' boardId
  | shutdown => exact shutdown_alike h tracked tracked'
  | reply seq reply =>
    rw [late, Bool.not_eq_false', List.any_eq_true] at timely
    obtain ⟨r, member, numbered⟩ := timely
    obtain rfl : r.ticket.seq = seq := of_decide_eq_true numbered
    exact reply_alike h tracked tracked' member reply
  | tick => exact tick_alike h
  | poll arming => exact poll_alike h arming
  | setPage active =>
    refine ⟨h.state, ?_, h.callback, h.told, h.present⟩
    show d.page.set active = c.page.set active
    rw [h.page]
  | attendPage => exact attendPage_alike h

end Dialogue.Conversation
