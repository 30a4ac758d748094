import Dialogue.Proofs.Conversation.Confirmed
import Dialogue.Proofs.Conversation.Epochs

/-! # What the host is told

The host is told of the confirmation when the reply to a confirmation seals the goal, and by
nothing else. It is told once: of the first reply of the run that does. From then on nothing but
refreshes is asked for, until the conversation is turned to another board. -/

namespace Dialogue.Conversation

/-- Whether the event is the reply to a current confirmation, and brings the session that was asked
about, confirmed. -/
def seals (c : Conversation) : Event → Bool
  | .reply seq (.ok s) =>
    s.status = .confirmed && c.pending.any fun r =>
      r.ticket.seq = seq && r.call = .confirm s.boardId s.id && c.state.ledger.isCurrent r.ticket
  | _ => false

/-- Whether some event of a run seals the goal. -/
def isSealed (c : Conversation) : List (Nat × Event) → Bool
  | [] => false
  | (now, event) :: rest => c.seals event || (c.step now event).1.isSealed rest

theorem isSealed_append (c : Conversation) (before after : List (Nat × Event)) :
    c.isSealed (before ++ after) = (c.isSealed before || (c.run before).isSealed after) := by
  induction before generalizing c with
  | nil => rfl
  | cons first rest ih =>
    obtain ⟨now, event⟩ := first
    rw [List.cons_append, isSealed, ih, isSealed, Bool.or_assoc]
    rfl

theorem isSealed_concat (c : Conversation) (events : List (Nat × Event)) (now : Nat)
    (event : Event) :
    c.isSealed (events ++ [(now, event)]) = (c.isSealed events || (c.run events).seals event) := by
  rw [isSealed_append, isSealed, isSealed, Bool.or_false]

section Seals

variable {c : Conversation}

theorem seals_ok_iff {seq : Nat} {s : Session} :
    c.seals (.reply seq (.ok s)) = true ↔
      s.status = .confirmed ∧ ∃ r ∈ c.pending, r.ticket.seq = seq ∧
        r.call = .confirm s.boardId s.id ∧ c.state.ledger.isCurrent r.ticket = true := by
  simp [seals, and_assoc]

/-- A reply that seals the goal is one to a request under way. -/
theorem exists_of_seals {event : Event} (seals : c.seals event = true) :
    ∃ r reply, event = .reply r.ticket.seq reply ∧ r ∈ c.pending ∧ c.state.Seals r reply := by
  cases event with
  | reply seq reply =>
    cases reply with
    | error error => cases seals
    | ok s =>
      obtain ⟨status, r, sent, rfl, call, current⟩ := seals_ok_iff.mp seals
      refine ⟨r, .ok s, rfl, sent, current, ?_, s, ?_⟩
      · rw [call]
        rfl
      · rw [call]
        exact Call.check_of_confirm status
  | _ => cases seals

/-- Whether the reply to a request under way seals the goal. -/
theorem seals_iff (h : Tracked c.state c.pending) {r : Request} (sent : r ∈ c.pending)
    (reply : Reply) : c.seals (.reply r.ticket.seq reply) = true ↔ c.state.Seals r reply := by
  constructor
  · intro seals
    obtain ⟨r', reply', same, sent', sealed⟩ := exists_of_seals seals
    obtain ⟨numbered, rfl⟩ := Event.reply.inj same
    obtain rfl := h.eq_of_seq sent sent' numbered
    exact sealed
  · rintro ⟨current, confirm, s, passed⟩
    have status := Call.confirmed_of_check passed confirm
    obtain ⟨b, i, call⟩ := Call.exists_of_confirm confirm
    rw [call] at passed
    obtain ⟨rfl, rfl, id⟩ := Call.check_eq_ok passed Operation.noConfusion
    obtain rfl := id i rfl
    exact seals_ok_iff.mpr ⟨status, r, sent, rfl, call, current⟩

theorem seals_of_isCall {event : Event} (call : event.isCall = true) : c.seals event = false := by
  cases event with
  | reply seq reply => cases call
  | _ => rfl

/-- A reply that nobody waits for seals nothing. -/
theorem seals_of_missing {seq : Nat} (missing : c.pending.find? (·.ticket.seq = seq) = none)
    (reply : Reply) : c.seals (.reply seq reply) = false := by
  rw [← Bool.not_eq_true]
  intro seals
  obtain ⟨r, reply', same, sent, -⟩ := exists_of_seals seals
  obtain ⟨rfl, -⟩ := Event.reply.inj same
  exact List.find?_eq_none.mp missing r sent (decide_eq_true rfl)

/-- Once a conversation has been ended, nothing seals the goal. -/
theorem Ended.seals_eq_false (h : c.Ended) (ended : c.state.shutDown = true) (event : Event) :
    c.seals event = false := by
  rw [← Bool.not_eq_true]
  intro seals
  obtain ⟨r, reply, -, sent, current, -⟩ := exists_of_seals seals
  rw [Ledger.isCurrent_of_old (h.gone ended r sent)] at current
  cases current

end Seals

/-- What becomes of the callback when the goal is sealed, or when it is not. -/
structure Tells (c : Conversation) (seals : Bool) (c' : Conversation) : Prop where
  told : c'.told = c.told + (c.callback && seals).toNat
  callback : c'.callback = (c.callback && !seals)

section Tells

variable {now : Nat} {c c' c'' : Conversation}

theorem tells_of_same (told : c'.told = c.told) (callback : c'.callback = c.callback) :
    c.Tells false c' where
  told := by
    rw [told, Bool.and_false]
    rfl
  callback := by rw [callback, Bool.not_false, Bool.and_true]

theorem Tells.trans {first second : Bool} (h : c.Tells first c') (h' : c'.Tells second c'') :
    c.Tells (first || second) c'' where
  told := by
    rw [h'.told, h.told, h.callback, Nat.add_assoc]
    cases c.callback <;> cases first <;> cases second <;> rfl
  callback := by rw [h'.callback, h.callback, Bool.not_or, Bool.and_assoc]

theorem tellHost_tells (c : Conversation) : c.Tells true c.tellHost := by
  unfold tellHost
  split
  · rename_i spare
    exact ⟨by rw [spare]; rfl, by rw [spare]; rfl⟩
  · rename_i spent
    rw [Bool.not_eq_true] at spent
    exact ⟨by rw [spent]; rfl, by rw [spent]; rfl⟩

theorem Answers.tells {r : Request} {reply : Reply} (h : c.Answers now r reply c') {seals : Bool}
    (iff : seals = true ↔ c.state.Seals r reply) : c.Tells seals c' := by
  have otherwise : ¬ c.state.Seals r reply → seals = false := by
    intro unsealed
    rw [← Bool.not_eq_true, iff]
    exact unsealed
  cases h with
  | dropped unsealed =>
    rw [otherwise unsealed]
    exact tells_of_same rfl rfl
  | taken unsealed st =>
    rw [otherwise unsealed]
    exact tells_of_same rfl rfl
  | confirmed sealed st =>
    rw [iff.mpr sealed]
    have same : c.Tells false (c.change now st) := tells_of_same rfl rfl
    exact same.trans (tellHost_tells _)

theorem finishPoll_tells (c : Conversation) (r : Request) : c.Tells false (c.finishPoll r) := by
  unfold finishPoll
  split
  · exact tells_of_same rfl rfl
  · exact tells_of_same rfl rfl

/-- An event tells the host if it seals the goal, and not otherwise. -/
theorem Leads.tells (tracked : Tracked c.state c.pending) {event : Event}
    (h : c.Leads now event c') : c.Tells (c.seals event) c' := by
  cases h with
  | rested call =>
    rw [seals_of_isCall call]
    exact tells_of_same rfl rfl
  | committed call st pending =>
    rw [seals_of_isCall call]
    exact tells_of_same rfl rfl
  | moved boardId => exact tells_of_same rfl rfl
  | closed => exact tells_of_same rfl rfl
  | early undue => exact tells_of_same rfl rfl
  | ticked fired => exact tells_of_same rfl rfl
  | finished arming => exact tells_of_same rfl rfl
  | turned active => exact tells_of_same rfl rfl
  | unattended seen => exact tells_of_same rfl rfl
  | attended news => exact tells_of_same rfl rfl
  | missed missing =>
    rw [seals_of_missing missing]
    exact tells_of_same rfl rfl
  | @answered seq reply r c'' found answers =>
    have numbered : r.ticket.seq = seq := by simpa using List.find?_some found
    subst numbered
    have iff := seals_iff tracked (List.mem_of_find?_eq_some found) reply
    have told : (c.without r).Tells (c.seals (.reply r.ticket.seq reply)) c'' := answers.tells iff
    have same : c.Tells false (c.without r) := tells_of_same rfl rfl
    have all := (same.trans told).trans (finishPoll_tells c'' r)
    rw [Bool.or_false, Bool.false_or] at all
    exact all

/-- A run tells the host if one of its events seals the goal, and not otherwise. -/
theorem Books.run_tells (events : List (Nat × Event)) :
    ∀ {c : Conversation}, c.Books → c.Tells (c.isSealed events) (c.run events) := by
  induction events with
  | nil => exact fun _ => tells_of_same rfl rfl
  | cons first rest ih =>
    intro c h
    obtain ⟨now, event⟩ := first
    exact ((step_leads now c event).tells h.tracked).trans (ih (h.step now event))

end Tells

section Final

variable {c : Conversation} {event : Event} {st st' : State} {pending pending' : List Request}

/-- No confirmation is asked for while one is under way. -/
theorem Balanced.not_confirm (h : Balanced st pending) {r r' : Request}
    (member : r ∈ underWay st pending .confirm)
    (change : Change st pending event st' pending' (some r')) : r'.call.operation ≠ .confirm := by
  intro confirm
  have confirmation : Operation.confirm ≠ .refresh := Operation.noConfusion
  have busy := h.busy_of_mem confirmation member
  cases change with
  | asked kind asks =>
    have free := h.free_of_asks asks (fun get => confirmation (confirm.symm.trans get)) confirmation
    rw [free] at busy
    cases busy

/-- A reply that seals the goal leaves the conversation confirmed, with no answer under way. -/
theorem Books.confirmed_of_seals (h : c.Books) (seals : c.seals event = true) (now : Nat) :
    (c.step now event).1.state.phase = .confirmed ∧
      (c.step now event).1.state.inFlight.submitting = false := by
  obtain ⟨r, reply, rfl, sent, current, confirm, s, passed⟩ := exists_of_seals seals
  have change : r.call.operation ≠ .refresh := by
    rw [confirm]
    exact Operation.noConfusion
  have takes : c.state.Takes r reply _ := reply_takes h.tracked sent now reply
  constructor
  · have new := (takes.of_change change).session_of_check current passed
    exact State.phase_eq_confirmed_iff.mpr ⟨s, new, Call.confirmed_of_check passed confirm⟩
  · -- the confirmation was under way, and an answer never is beside it
    have member := h.mem_unanswered sent current
    have busy := h.balanced.busy_of_mem change member
    have answer : Operation.answer ≠ .refresh := Operation.noConfusion
    refine takes.free answer ?_
    rw [← Bool.not_eq_true]
    intro submitting
    have same := h.balanced.alone _ _ answer change submitting busy
    rw [confirm] at same
    cases same

end Final

/-- How a run notifies the host of the confirmation, and what comes after. -/
structure Notifies (c : Conversation) (events : List (Nat × Event)) : Prop where
  once : (c.run events).told ≤ 1
  told : (c.run events).told = 1 ↔ c.isSealed events = true
  first : ∀ now event, ((c.run events).step now event).1.told =
    (c.run events).told + (!c.isSealed events && (c.run events).seals event).toNat
  ended : (c.run events).state.shutDown = true → ∀ event, (c.run events).seals event = false
  single : ∀ r ∈ (c.run events).unanswered .confirm, ∀ now event r',
    ((c.run events).step now event).2 = .waiting r' → r'.call.operation ≠ .confirm
  final : ∀ now event, (c.run events).seals event = true →
    ∀ later, ((c.run events).step now event).1.Remains later →
      (((c.run events).step now event).1.run later).state.phase = .confirmed ∧
        ∀ r ∈ ((c.run events).step now event).1.sent later, r.call.operation = .refresh

/-- What has become of the callback of a new conversation. -/
theorem tells_of_run (boardId : String) (interval : Period) (page : Page)
    (events : List (Nat × Event)) :
    ((initial boardId interval page).run events).told =
        ((initial boardId interval page).isSealed events).toNat ∧
      ((initial boardId interval page).run events).callback =
        !(initial boardId interval page).isSealed events := by
  have tells := (books_initial boardId interval page).run_tells events
  exact ⟨tells.told.trans (Nat.zero_add _), tells.callback⟩

/-- In every run, the host is told at most once, and just when the reply to a current confirmation
brings the confirmed session for the first time. There is only one confirmation under way at a
time, and after the one that succeeds the conversation is over, as long as it keeps its board. -/
theorem run_notifies (boardId : String) (interval : Period) (page : Page)
    (events : List (Nat × Event)) : (initial boardId interval page).Notifies events where
  once := by
    rw [(tells_of_run boardId interval page events).1]
    exact Bool.toNat_le _
  told := by
    rw [(tells_of_run boardId interval page events).1, Bool.toNat_eq_one]
  first := by
    intro now event
    have books := (books_initial boardId interval page).run events
    rw [((step_leads now _ event).tells books.tracked).told,
      (tells_of_run boardId interval page events).2]
  ended := fun ended => ((sound_initial boardId interval page).run events).ended.seals_eq_false ended
  single := by
    intro r member now event r' sends
    have books := (books_initial boardId interval page).run events
    have change := step_changes now ((initial boardId interval page).run events) event
    rw [sends] at change
    exact books.balanced.not_confirm member change
  final := by
    intro now event seals later remains
    have books := (books_initial boardId interval page).run events
    obtain ⟨confirmed, settled⟩ := books.confirmed_of_seals seals now
    exact Books.final later (books.step now event) confirmed settled remains

end Dialogue.Conversation
