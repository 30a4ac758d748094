import Dialogue.Proofs.Conversation.Course
import Dialogue.Proofs.Timer

/-! # What follows the state

Every event either commits, and then the view and the timer follow the state and the page as they
are at that moment, or leaves the state and what follows it alone. `Settles` says which of the two
an event does, and `step_settles` that there is nothing else. -/

namespace Dialogue.Conversation

/-- How an event leaves the view and the timer. -/
inductive Settles (c c' : Conversation) : Prop where
  | committed (published : c'.published = c.published + 1) (page : c'.page = c.page)
      (view : c'.view = c'.state.view) (armed : c'.timer.isArmed = c'.wantsTimer)
  | attended (news : c.page.hasNews = true) (published : c'.published = c.published)
      (state : c'.state = c.state) (view : c'.view = c.view) (page : c'.page = c.page.see)
      (armed : c'.timer.isArmed = c'.wantsTimer)
  | rested (published : c'.published = c.published) (state : c'.state = c.state)
      (view : c'.view = c.view) (page : c'.page = c.page ∨ ∃ active, c'.page = c.page.set active)
      (armed : c'.timer.isArmed = c.timer.isArmed)

section Settles

variable {c c' c'' : Conversation}

theorem settles_refl (c : Conversation) : c.Settles c :=
  .rested rfl rfl rfl (.inl rfl) rfl

/-- It only matters what becomes of the state, the view, the page and the arming of the timer. -/
theorem Settles.of_same (h : c.Settles c') (published : c''.published = c'.published)
    (state : c''.state = c'.state) (view : c''.view = c'.view) (page : c''.page = c'.page)
    (armed : c''.timer.isArmed = c'.timer.isArmed) : c.Settles c'' := by
  have wants : c''.wantsTimer = c'.wantsTimer := by
    unfold wantsTimer
    rw [state, page]
  cases h with
  | committed published' page' view' armed' =>
    apply Settles.committed
    · rw [published, published']
    · rw [page, page']
    · rw [view, view', state]
    · rw [armed, armed', wants]
  | attended news published' state' view' page' armed' =>
    apply Settles.attended news
    · rw [published, published']
    · rw [state, state']
    · rw [view, view']
    · rw [page, page']
    · rw [armed, armed', wants]
  | rested published' state' view' page' armed' =>
    apply Settles.rested
    · rw [published, published']
    · rw [state, state']
    · rw [view, view']
    · rw [page]
      exact page'
    · rw [armed, armed']

/-- The requests under way do not matter. -/
theorem settles_of_pending {pending : List Request}
    (h : Settles { c with pending := pending } c') : c.Settles c' := by
  cases h with
  | committed published page view armed => exact .committed published page view armed
  | attended news published state view page armed =>
    exact .attended news published state view page armed
  | rested published state view page armed => exact .rested published state view page armed

/-- A page stays the page that it is. -/
theorem Settles.kind (h : c.Settles c') : c'.page.kind = c.page.kind := by
  cases h with
  | committed published page view armed => rw [page]
  | attended news published state view page armed =>
    rw [page]
    rfl
  | rested published state view page armed =>
    rcases page with same | ⟨active, turned⟩
    · rw [same]
    · rw [turned]
      rfl

/-- The view goes on to be that of the state. -/
theorem Settles.view_eq (h : c.Settles c') (same : c.view = c.state.view) :
    c'.view = c'.state.view := by
  cases h with
  | committed published page view armed => exact view
  | attended news published state view page armed => rw [view, state, same]
  | rested published state view page armed => rw [view, state, same]

end Settles

section Leads

variable {now : Nat} {c c' : Conversation}

/-- The timer is wanted while the assistant is awaited on a visible page. -/
theorem wantsTimer_iff :
    c.wantsTimer = true ↔
      c.state.shutDown = false ∧ c.state.phase = .awaitingAssistant ∧ c.page.isActive = true := by
  rw [wantsTimer, Bool.and_eq_true, Bool.and_eq_true, Bool.not_eq_true', and_assoc,
    Phase.wantsPolling, decide_eq_true_iff]

/-- The timer is armed or disarmed as the state and the page want it. -/
theorem isArmed_syncTimer (now : Nat) (c : Conversation) :
    (c.syncTimer now).timer.isArmed = c.wantsTimer := by
  unfold syncTimer
  by_cases wanted : c.wantsTimer = true
  · simp [wanted]
  · rw [Bool.not_eq_true] at wanted
    simp [wanted]

theorem change_settles (now : Nat) (c : Conversation) (st : State) : c.Settles (c.change now st) :=
  .committed rfl rfl rfl (isArmed_syncTimer now _)

theorem tellHost_settles (h : c.Settles c') : c.Settles c'.tellHost := by
  unfold tellHost
  split
  · exact h.of_same rfl rfl rfl rfl rfl
  · exact h

theorem finishPoll_settles (h : c.Settles c') (r : Request) : c.Settles (c'.finishPoll r) := by
  unfold finishPoll
  split
  · exact h.of_same rfl rfl rfl rfl (Timer.isArmed_finish _ _)
  · exact h

theorem Answers.settles {r : Request} {reply : Reply} (h : c.Answers now r reply c') :
    c.Settles c' := by
  cases h with
  | dropped unsealed => exact settles_refl c
  | taken unsealed st => exact change_settles now c st
  | confirmed seals st => exact tellHost_settles (change_settles now c st)

theorem Leads.settles {event : Event} (h : c.Leads now event c') : c.Settles c' := by
  cases h with
  | rested call => exact settles_refl c
  | committed call st pending => exact settles_of_pending (change_settles now _ st)
  | moved boardId => exact .committed rfl rfl rfl (isArmed_syncTimer now _)
  | closed =>
    -- a conversation that has been ended does not want its timer, which is cut off
    exact .committed rfl rfl rfl rfl
  | early undue => exact settles_refl c
  | ticked fired => exact .rested rfl rfl rfl (.inl rfl) (Timer.isArmed_of_fire fired)
  | finished arming => exact .rested rfl rfl rfl (.inl rfl) (Timer.isArmed_finish c.timer arming)
  | turned active => exact .rested rfl rfl rfl (.inr ⟨active, rfl⟩) rfl
  | unattended seen => exact settles_refl c
  | attended news => exact .attended news rfl rfl rfl rfl (isArmed_syncTimer now _)
  | missed missing => exact settles_refl c
  | answered found answers =>
    apply finishPoll_settles
    exact settles_of_pending answers.settles

end Leads

/-- Every event commits, attends to the page, or leaves the view and the timer as they are. -/
theorem step_settles (now : Nat) (c : Conversation) (event : Event) :
    c.Settles (c.step now event).1 :=
  (step_leads now c event).settles

end Dialogue.Conversation
