import Dialogue.Proofs.Conversation.Affordances
import Dialogue.Proofs.Conversation.Host

/-! # What a confirmation reports

A confirmation that ends without an error need not have sealed the goal: when the conversation is
confirmed already, there is nothing left to be done. The host has then been told only if the reply
to an earlier confirmation has reached the client. When that reply is lost, and a refresh brings
the confirmed session, the confirmation reports what the host has never heard of. -/

namespace Dialogue.Conversation

/-- The event can end a confirmation: it is the call, or the reply that the call waits for. -/
def EndsConfirm (c : Conversation) : Event → Prop
  | .confirm => True
  | .reply seq _ => ∃ r ∈ c.pending, r.ticket.seq = seq ∧ r.call.operation = .confirm
  | _ => False

/-- The conversation is confirmed all through the run. -/
def Stands (c : Conversation) (events : List (Nat × Event)) : Prop :=
  c.Throughout (fun c' => c'.state.phase = .confirmed) events

/-- What made the conversation confirmed, as it has been since, is the reply to a request that is
no confirmation. -/
def LearnsOtherwise (c : Conversation) (events : List (Nat × Event)) : Prop :=
  ∃ before now r reply after, events = before ++ (now, .reply r.ticket.seq reply) :: after ∧
    r ∈ (c.run before).pending ∧ r.call.operation ≠ .confirm ∧
    (c.run before).state.phase ≠ .confirmed ∧
    ((c.run before).step now (.reply r.ticket.seq reply)).1.Stands after

section Learns

variable {st st' : State} {pending pending' : List Request} {event : Event}
  {request : Option Request}

/-- A conversation becomes confirmed by the reply to a request, which seals the goal if the request
is a confirmation. -/
theorem Change.learns (change : Change st pending event st' pending' request)
    (unconfirmed : st.phase ≠ .confirmed) (confirmed : st'.phase = .confirmed) :
    ∃ r reply, event = .reply r.ticket.seq reply ∧ r ∈ pending ∧
      (r.call.operation = .confirm → st.Seals r reply) := by
  have unheld : st'.session ≠ st.session := fun same =>
    unconfirmed (confirmed_of_session_eq confirmed same.symm)
  cases change with
  | nothing idle => exact absurd rfl unheld
  | asked kind asks => exact absurd asks.session unheld
  | selected running turn offered => exact absurd rfl unheld
  | cleared running free =>
    obtain ⟨s, held, -⟩ := State.phase_eq_confirmed_iff.mp confirmed
    rcases cleared_session st with same | given
    · exact absurd same unheld
    · rw [given] at held
      cases held
  | moved running other =>
    obtain ⟨s, held, -⟩ := State.phase_eq_confirmed_iff.mp confirmed
    cases held
  | closed running => exact absurd rfl unheld
  | @replied r reply _ sent takes =>
    refine ⟨r, reply, rfl, sent, ?_⟩
    intro confirm
    have change : r.call.operation ≠ .refresh := by
      rw [confirm]
      exact Operation.noConfusion
    rcases (takes.of_change change).session with same | ⟨s, current, passed, -⟩
    · exact absurd same unheld
    · exact ⟨current, confirm, s, passed⟩

/-- When a run has sealed nothing, its confirmed conversation has learnt of that otherwise. -/
theorem Books.learnsOtherwise {c : Conversation} (h : c.Books)
    (unconfirmed : c.state.phase ≠ .confirmed) {events : List (Nat × Event)}
    (confirmed : (c.run events).state.phase = .confirmed) (unsealed : c.isSealed events = false) :
    c.LearnsOtherwise events := by
  rcases run_turns (P := fun c' => c'.state.phase = .confirmed) events confirmed with
    stands | ⟨before, now, event, after, rfl, new, stands⟩
  · exact absurd (stands [] events rfl) unconfirmed
  · have change := step_changes now (c.run before) event
    obtain ⟨r, reply, rfl, sent, sealing⟩ := change.learns new (stands [] after rfl)
    refine ⟨before, now, r, reply, after, rfl, sent, ?_, new, stands⟩
    intro confirm
    have seals := (seals_iff (h.run before).tracked sent reply).mpr (sealing confirm)
    rw [isSealed_append, isSealed, seals, Bool.true_or, Bool.or_true] at unsealed
    cases unsealed

end Learns

section Ends

variable {now : Nat} {c : Conversation}

/-- A confirmation that ends at once has done nothing. -/
theorem confirm_eq_of_ended {result : Except ActionError Unit}
    (ended : (c.confirm now).2 = .ended result) : (c.confirm now).1 = c := by
  apply (confirm_heeds now c).rests
  rw [ended]
  exact Outcome.not_calls_of_ended result .confirm

/-- The reply to a confirmation reports an error, unless it seals the goal or comes too late. -/
theorem replyTo_of_ok {r : Request} (confirm : r.call.operation = .confirm) {reply : Reply}
    (ok : (c.replyTo now r reply).2 = .ended (.ok ())) :
    (c.replyTo now r reply).1 = c ∨ c.state.Seals r reply := by
  obtain ⟨b, i, call⟩ := Call.exists_of_confirm confirm
  revert ok
  unfold replyTo
  rw [call]
  dsimp only
  unfold replyConfirm
  split
  · exact fun _ => .inl rfl
  · rename_i current
    rw [Bool.not_eq_true, Bool.not_eq_false'] at current
    dsimp only
    split
    · rename_i s passed
      refine fun _ => .inr ⟨current, confirm, s, ?_⟩
      rw [call]
      exact passed
    · exact fun fails => nomatch fails

/-- A confirmation that ends without an error and has not sealed the goal has left the state
alone. -/
theorem state_of_endsConfirm (tracked : Tracked c.state c.pending) {event : Event}
    (ends : c.EndsConfirm event) (ok : (c.step now event).2 = .ended (.ok ()))
    (unsealed : c.seals event = false) : (c.step now event).1.state = c.state := by
  cases event with
  | confirm => exact congrArg Conversation.state (confirm_eq_of_ended ok)
  | reply seq reply =>
    obtain ⟨r, sent, rfl, confirm⟩ := ends
    rw [step, reply_of_mem tracked sent] at ok ⊢
    refine (finishPoll_alike _ r).state.trans ?_
    rcases replyTo_of_ok confirm ok with same | sealing
    · rw [same]
      rfl
    · rw [(seals_iff tracked sent reply).mpr sealing] at unsealed
      cases unsealed
  | _ => exact absurd ends id

end Ends

/-- How a confirmation, which ends with the event after the run, reports the confirmed
conversation. -/
structure Reports (c : Conversation) (events : List (Nat × Event)) (now : Nat) (event : Event) :
    Prop where
  once : ((c.run events).step now event).1.told ≤ 1
  told : ((c.run events).step now event).1.told = 1 ↔
    c.isSealed (events ++ [(now, event)]) = true
  unmoved : (c.run events).seals event = false →
    ((c.run events).step now event).1.state = (c.run events).state
  untold : ((c.run events).step now event).1.told = 0 → c.LearnsOtherwise events

/-- In every run, a confirmation that ends without an error in a confirmed conversation has been
told to the host once if the reply to some confirmation has sealed the goal by then. Otherwise the
host has not been told: the client knows of the confirmation from the reply to another request, and
this confirmation has done nothing. -/
theorem run_reports (boardId : String) (interval : Period) (page : Page)
    (events : List (Nat × Event)) (now : Nat) (event : Event)
    (ends : ((initial boardId interval page).run events).EndsConfirm event)
    (ok : (((initial boardId interval page).run events).step now event).2 = .ended (.ok ()))
    (confirmed : (((initial boardId interval page).run events).step now event).1.state.phase =
      .confirmed) : (initial boardId interval page).Reports events now event := by
  have books := books_initial boardId interval page
  have unmoved := state_of_endsConfirm (books.run events).tracked ends ok
  have told : (((initial boardId interval page).run events).step now event).1.told =
      ((initial boardId interval page).isSealed (events ++ [(now, event)])).toNat := by
    rw [← (tells_of_run boardId interval page _).1, run_append]
    rfl
  refine ⟨?_, ?_, unmoved, ?_⟩
  · rw [told]
    exact Bool.toNat_le _
  · rw [told, Bool.toNat_eq_one]
  · intro untold
    rw [told, Bool.toNat_eq_zero, isSealed_concat, Bool.or_eq_false_iff] at untold
    obtain ⟨unsealed, idle⟩ := untold
    rw [unmoved idle] at confirmed
    exact books.learnsOtherwise (fun vacant => nomatch vacant) confirmed unsealed

/-- A session in which the assistant has drafted a goal. -/
def drafted (status : Status) : Session :=
  { questioned status with draftGoal := some ⟨some "Growth", none, none, []⟩ }

/-- The reply to a confirmation is lost, and a refresh finds the session confirmed. -/
def unheard : List (Nat × Event) :=
  [(0, .start), (0, .reply 1 (.ok (drafted .active))), (0, .confirm),
    (0, .reply 2 (.error (.network "connection reset"))), (0, .refresh),
    (0, .reply 3 (.ok (drafted .confirmed)))]

theorem unheard_reports :
    (initial "b" usual (.start .alwaysActive true)).Reports unheard 0 .confirm :=
  run_reports "b" usual (.start .alwaysActive true) unheard 0 .confirm trivial rfl
    (by decide +kernel)

/-- The confirmation reports what the host has not been told. -/
theorem not_always_told :
    ¬ ∀ (boardId : String) (interval : Period) (page : Page) (events : List (Nat × Event))
      (now : Nat) (event : Event),
      ((initial boardId interval page).run events).EndsConfirm event →
      (((initial boardId interval page).run events).step now event).2 = .ended (.ok ()) →
      (((initial boardId interval page).run events).step now event).1.state.shutDown = false →
      (((initial boardId interval page).run events).step now event).1.state.phase = .confirmed →
      (((initial boardId interval page).run events).step now event).1.told = 1 := by
  intro always
  have told := always "b" usual (.start .alwaysActive true) unheard 0 .confirm trivial rfl
    (by decide +kernel) (by decide +kernel)
  have untold : (((initial "b" usual (.start .alwaysActive true)).run unheard).step 0
      .confirm).1.told = 0 := by decide +kernel
  rw [untold] at told
  cases told

end Dialogue.Conversation
